/-
# What the commands on variables leave alone

The commands that make, copy, move, change, destroy and look at the values of variables have nothing
to do with registries and environments. They leave those of the session as they are, and the global
registry of the program too, also when they end with a panic.
-/

import DynamicValue.Proofs.Session.Relations

namespace DynamicValue

/-- An action that leaves a part of the state as it is, however it ends. -/
def Action.Keeps {ε σ α ρ : Type} (part : σ → ρ) (action : ExceptT ε (StateM σ) α) : Prop :=
  ∀ state, part (action.run state).2 = part state

open DynamicValue.Action (Keeps)

/-- What is around the variables of a session: its registries, the global one among them, its
environments, and whether its program is fresh. -/
structure Surroundings where
  registries : Directory Registry
  environments : Directory Environment
  global? : Option Registry
  isFresh : Bool

namespace Session

/-- What is around the variables of a session. -/
def surroundings (session : Session) : Surroundings :=
  ⟨session.registries, session.environments, session.machine.global?, session.isFresh⟩

/-- The surroundings of the variables stay as they are when the program goes on with the same global
registry, and when the variables change. -/
theorem allowsChanges_surroundings :
    AllowsChanges (fun machine after => after.global? = machine.global?)
      fun session after => after.surroundings = session.surroundings where
  toComposes := .same surroundings
  program session _ hmachine :=
    congrArg (Surroundings.mk session.registries session.environments · session.isFresh) hmachine
  changes _ _ := rfl

/-- No command on variables changes anything around the variables. -/
theorem keeps_step (command : ContainerCommand) : Keeps surroundings (step command.command) :=
  respects_container_step Machine.allows_global? allowsChanges_surroundings command

end Session

end DynamicValue
