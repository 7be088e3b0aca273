/-
# What a coercion does

A coercion passes three gates and then runs the conversion that is live for the type of its value
and the destination, once and on the payload of the value. So its outcome depends on the history of
the registry alone. The checks that the registered conversions make of the types that they are
called with never fail here: an entry is found only under the identities of the types it was
registered with.

This holds at every depth at which conversions ask for each other, so it does not depend on the
limit that is set to the depth. What the limit decides is only whether a coercion is exhausted.
-/

import DynamicValue.Proofs.Registry.Depth
import DynamicValue.Proofs.Registry.History

namespace DynamicValue

/-- No value of a native type reports its end. -/
theorem Payload.dropEvents_of_native {payload : Payload}
    (hnative : payload.type.isForeign = false) :
    payload.dropEvents = [] := by
  obtain ⟨type, value⟩ := payload
  cases type <;> first | rfl | cases hnative

section Identities

variable {machine : Machine} {type : ValueType} {identity : TypeIdentity}

/-- The identity of a type is foreign if the type is. -/
theorem Machine.Coherent.isForeign_eq (hcoherent : machine.Coherent)
    (hidentity : machine.identity? type = some identity) : identity.isForeign = type.isForeign := by
  have htype := (hcoherent.identity?_eq_some_iff.mp hidentity).2
  unfold TypeIdentity.isForeign TypeIdentity.typeClass ValueType.isForeign
  rw [htype]

theorem Machine.identify_isForeign (hcoherent : machine.Coherent) (type : ValueType) :
    (Machine.identify type machine).1.isForeign = type.isForeign :=
  (Machine.identify_coherent hcoherent type).isForeign_eq
    (Machine.identity?_identify hcoherent type)

end Identities

@[simp] theorem Receiver.blank_type (type : ValueType) : (blank type).type = type := rfl

namespace RegistryEntry

variable {converter : Converter} {source : Instance} {dest : ValueType}
  {conversion : Conversion source.payload.type dest} {machine after : Machine}

/-- A conversion that is called with the types it was registered with runs on the value. If it gives
no result, the receiver stays as it was. -/
theorem apply_run_of_not_ok {receiver : Receiver} (hreceiver : receiver.type = dest)
    (sourceIdentity destIdentity : TypeIdentity)
    {outcome : Except Halt (Except ConversionError dest.Value)}
    (hplan : ((conversion source.payload.value).run converter source).run machine =
      (outcome, after))
    (hfails : ∀ value, outcome ≠ .ok (.ok value)) :
    (RegistryEntry.apply ⟨_, dest, sourceIdentity, destIdentity, conversion⟩ converter source).run
        (machine, receiver) =
      (outcome.map fun result => result.map fun _ => (), after, receiver) := by
  have hcast := Casting.run_onMachine hplan receiver
  unfold apply
  rw [Action.run_bind_ok _ (Action.run_get _)]
  simp only [Payload.as?_self]
  rw [if_pos hreceiver]
  cases outcome with
  | error halt =>
      rw [Action.run_bind_error _ hcast]
      rfl
  | ok result =>
      rw [Action.run_bind_ok _ hcast]
      cases result with
      | error error => rfl
      | ok value => exact absurd rfl (hfails value)

/-- The result of a conversion is put into the receiver, and then what the receiver held before is
destroyed. -/
theorem apply_run_of_ok {receiver : Receiver} (hreceiver : receiver.type = dest)
    (sourceIdentity destIdentity : TypeIdentity) {value : dest.Value}
    (hplan : ((conversion source.payload.value).run converter source).run machine =
      (.ok (.ok value), after)) :
    (RegistryEntry.apply ⟨_, dest, sourceIdentity, destIdentity, conversion⟩ converter source).run
        (machine, receiver) =
      ((Payload.droppedOf (receiver.content?.map Instance.payload)).map fun _ => .ok (),
        after.advance after.heap 1 (receiver.content?.map Instance.serial).toList
          (Payload.dropEventsOf (receiver.content?.map Instance.payload)),
        { receiver with content? := some ⟨after.created, ⟨dest, value⟩⟩ }) := by
  have hcast := Casting.run_onMachine hplan receiver
  have hcreate : (Casting.onMachine (liftM (Machine.create ⟨dest, value⟩) :
      Action Machine Instance)).run (after, receiver) =
      (.ok ⟨after.created, ⟨dest, value⟩⟩, after.advance after.heap 1 [] [], receiver) := by
    refine Casting.run_onMachine ?_ _
    rw [Action.run_lift, Machine.create_apply]
  have hreceive := Casting.receive_run ⟨after.created, ⟨dest, value⟩⟩
    (after.advance after.heap 1 [] []) receiver
  rw [Machine.advance_heap, Machine.advance_advance] at hreceive
  unfold apply
  rw [Action.run_bind_ok _ (Action.run_get _)]
  simp only [Payload.as?_self]
  rw [if_pos hreceiver, Action.run_bind_ok _ hcast]
  simp only []
  rw [Action.run_bind_ok _ hcreate]
  exact Action.run_bind_pure _ hreceive

end RegistryEntry

namespace Registry

variable {machine after : Machine} {history : List RegistryOperation} {registry : Registry}
  {holdings : List Holding} {holding : Holding} {cell : Cell} {dest : ValueType}
  {depth : Nat}

/-! ## The gates -/

/-- Nothing is converted to a foreign type, whatever the value is and whatever is registered. -/
theorem coerceWithin_foreign (hcoherent : machine.Coherent) (registry : Registry) (depth : Nat)
    (cell : Cell) (hforeign : dest.isForeign = true) :
    (registry.coerceWithin (depth + 1) cell dest).run machine =
      (.ok (.error (.foreignDestination (Machine.identify dest machine).1)),
        (Machine.identify dest machine).2) := by
  rw [coerceWithin_succ, Action.run_bind_ok _ (Action.run_lift _ _),
    if_pos ((Machine.identify_isForeign hcoherent dest).trans hforeign)]
  rfl

/-- What a coercion to a native type does once the identity of the destination is known. -/
theorem coerceWithin_native (hcoherent : machine.Coherent) (hnative : dest.isForeign = false) :
    (registry.coerceWithin (depth + 1) cell dest).run machine =
      (do
        match ← cell.contents? with
        | none => return .error .emptySource
        | some source =>
          registry.convertPayload (registry.coerceWithin depth) source cell.identity
            (Machine.identify dest machine).1 dest :
        Action Machine (Except ConversionError dest.Value)).run
          (Machine.identify dest machine).2 := by
  have hgate : ¬ (Machine.identify dest machine).1.isForeign = true := by
    rw [Machine.identify_isForeign hcoherent dest, hnative]
    exact Bool.false_ne_true
  have hidentify : (liftM (Machine.identify dest) : Action Machine TypeIdentity).run machine =
      (.ok (Machine.identify dest machine).1, (Machine.identify dest machine).2) :=
    Action.run_lift _ _
  rw [coerceWithin_succ]
  refine (Action.run_bind_ok _ hidentify).trans ?_
  exact congrArg (fun action : Action Machine (Except ConversionError dest.Value) =>
    action.run (Machine.identify dest machine).2) (if_neg hgate)

/-- Nothing is converted from the empty value. -/
theorem coerceWithin_empty (hcoherent : machine.Coherent) (hnative : dest.isForeign = false)
    (hempty : cell.isEmpty) :
    (registry.coerceWithin (depth + 1) cell dest).run machine =
      (.ok (.error .emptySource), (Machine.identify dest machine).2) := by
  have hcontents : cell.contents?.run (Machine.identify dest machine).2 =
      (.ok none, (Machine.identify dest machine).2) := by
    unfold Cell.contents?
    rw [Option.isNone_iff_eq_none.mp hempty]
    rfl
  rw [coerceWithin_native hcoherent hnative, Action.run_bind_ok _ hcontents]
  rfl

/-- A cast that passes the gates calls the entry that it finds. -/
theorem castWith_of_gates (registry : Registry) (converter : Converter) (source : Instance)
    {sourceType destType : TypeIdentity} (hnative : destType.isForeign = false)
    (hpresent : sourceType.isNull = false) :
    registry.castWith converter source sourceType destType =
      ((registry.lookup sourceType destType).map fun entry => entry.apply converter source).getD
        (pure (.error (.noConversion sourceType destType))) := by
  unfold castWith
  rw [if_neg (Bool.eq_false_iff.mp hnative), if_neg (Bool.eq_false_iff.mp hpresent)]
  cases registry.lookup sourceType destType <;> rfl

/-! ## Values with a payload -/

section Payloads

variable (hfollows : registry.Follows machine history) (haccounts : machine.Accounts holdings)
  (hholds : cell.Holds machine (some holding)) (hmem : holding ∈ holdings)
  (hnative : dest.isForeign = false)
include hfollows haccounts hholds hmem hnative

/-- The identity of the destination is handed out, and the payload of the value is read. -/
theorem coerceWithin_payload :
    (registry.coerceWithin (depth + 1) cell dest).run machine =
      (registry.convertPayload (registry.coerceWithin depth) holding.contents cell.identity
        (Machine.identify dest machine).1 dest).run (Machine.identify dest machine).2 := by
  have hlearns := Machine.identify_learns dest machine
  have hcontents := Cell.contents?_run (hlearns.accounts haccounts)
    (hholds.mono hlearns.toExtends) (fun held hheld => by cases hheld; exact hmem)
  rw [coerceWithin_native hfollows.coherent hnative, Action.run_bind_ok _ hcontents]
  rfl

omit haccounts hmem in
/-- A cast of the payload of a value passes the gates and calls what is live for its type. -/
theorem castWith_eq (converter : Converter) :
    registry.castWith converter holding.contents cell.identity (Machine.identify dest machine).1 =
      ((liveConversion? history holding.contents.payload.type dest).map fun conversion =>
        RegistryEntry.apply ⟨_, dest, cell.identity, (Machine.identify dest machine).1, conversion⟩
          converter holding.contents).getD
        (pure (.error (.noConversion cell.identity (Machine.identify dest machine).1))) := by
  have hextends := (Machine.identify_learns dest machine).toExtends
  have hknown := Machine.identify_coherent hfollows.coherent dest
  have hdest := Machine.identity?_identify hfollows.coherent dest
  have hsource : (Machine.identify dest machine).2.identity? holding.contents.payload.type =
      some cell.identity := (hholds.mono hextends).identity?_eq hknown
  have hlookup := (hfollows.mono hextends hknown).lookup_eq (.of_identity? hsource)
    (.of_identity? hdest)
  rw [liveEntry_of_types (hknown.identity?_eq_some_iff.mp hsource).2
    (hknown.identity?_eq_some_iff.mp hdest).2] at hlookup
  rw [castWith_of_gates registry converter _ ((hknown.isForeign_eq hdest).trans hnative)
    (hknown.isNull_eq_false (hknown.identity?_eq_some_iff.mp hsource).1), hlookup, Option.map_map]
  rfl

/-- Without a live conversion there is none. -/
theorem coerceWithin_missing
    (hmissing : liveConversion? history holding.contents.payload.type dest = none) :
    (registry.coerceWithin (depth + 1) cell dest).run machine =
      (.ok (.error (.noConversion cell.identity (Machine.identify dest machine).1)),
        (Machine.identify dest machine).2) := by
  rw [coerceWithin_payload hfollows haccounts hholds hmem hnative, convertPayload,
    castWith_eq hfollows hholds hnative, hmissing]
  rfl

/-- The live conversion runs once, on the payload; what it fails with is passed on. -/
theorem coerceWithin_live_of_not_ok {conversion : Conversion holding.contents.payload.type dest}
    (hlive : liveConversion? history holding.contents.payload.type dest = some conversion)
    {outcome : Except Halt (Except ConversionError dest.Value)}
    (hplan : ((conversion holding.contents.payload.value).run (registry.coerceWithin depth)
      holding.contents).run (Machine.identify dest machine).2 = (outcome, after))
    (hfails : ∀ value, outcome ≠ .ok (.ok value)) :
    (registry.coerceWithin (depth + 1) cell dest).run machine = (outcome, after) := by
  have hcast := RegistryEntry.apply_run_of_not_ok (Receiver.blank_type dest) cell.identity
    (Machine.identify dest machine).1 hplan hfails
  rw [coerceWithin_payload hfollows haccounts hholds hmem hnative, convertPayload,
    castWith_eq hfollows hholds hnative, hlive, Option.map_some, Option.getD_some]
  cases outcome with
  | error halt =>
      rw [Action.run_bind_error _ (Action.run_withLocal_error _ hcast)]
      rfl
  | ok result =>
      rw [Action.run_bind_ok _ (Action.run_withLocal_ok _ hcast)]
      cases result with
      | error error => rfl
      | ok value => exact absurd rfl (hfails value)

/-- The live conversion runs once, on the payload; its result is handed to the caller. -/
theorem coerceWithin_live_of_ok {conversion : Conversion holding.contents.payload.type dest}
    (hlive : liveConversion? history holding.contents.payload.type dest = some conversion)
    {value : dest.Value}
    (hplan : ((conversion holding.contents.payload.value).run (registry.coerceWithin depth)
      holding.contents).run (Machine.identify dest machine).2 = (.ok (.ok value), after)) :
    (registry.coerceWithin (depth + 1) cell dest).run machine =
      (.ok (.ok value), after.advance after.heap 1 [after.created] []) := by
  have hcast : (RegistryEntry.apply ⟨_, dest, cell.identity, (Machine.identify dest machine).1,
      conversion⟩ (registry.coerceWithin depth) holding.contents).run
        ((Machine.identify dest machine).2, .blank dest) =
      (.ok (.ok ()), after.advance after.heap 1 [] [],
        ⟨dest, some ⟨after.created, ⟨dest, value⟩⟩⟩) :=
    RegistryEntry.apply_run_of_ok (Receiver.blank_type dest) _ _ hplan
  rw [coerceWithin_payload hfollows haccounts hholds hmem hnative, convertPayload,
    castWith_eq hfollows hholds hnative, hlive, Option.map_some, Option.getD_some,
    Action.run_bind_ok _ (Action.run_withLocal_ok _ hcast)]
  have hdiscard : (liftM (Machine.discard ⟨after.created, ⟨dest, value⟩⟩) :
      Action Machine Unit).run (after.advance after.heap 1 [] []) =
      (.ok (), after.advance after.heap 1 [after.created] []) := by
    rw [Action.run_lift, Machine.discard_apply, Payload.dropEvents_of_native hnative,
      Machine.advance_advance]
    rfl
  have hvalue : (⟨dest, value⟩ : Payload).as? dest = some value := Payload.as?_self _
  rw [Action.run_bind_ok _ hdiscard]
  simp only [hvalue]
  rfl

end Payloads

/-! ## Coercions and histories -/

/-- How the requests of a conversion are met that a registry runs for a caller: by the same
registry, one level deeper. -/
def nested (registry : Registry) : Converter := registry.coerceWithin (registry.nestingLimit - 1)

/-- What a registry makes of any value is determined by its history. The three gates come in this
order, and if one of them is closed, nothing happens in the program but that the identity of the
destination is handed out. Otherwise the coercion ends as the live conversion does that is carried
out once, on the payload of the value, with its own requests met in the given way; a result is
handed to the caller. What an entry checks before it runs its conversion holds whenever the entry is
found for a value and a destination. -/
structure CoercesByHistory (registry : Registry) (machine : Machine)
    (history : List RegistryOperation) (coerce nested : Converter) : Prop where
  foreign : ∀ (cell : Cell) (dest : ValueType), dest.isForeign = true →
    (coerce cell dest).run machine =
      (.ok (.error (.foreignDestination (Machine.identify dest machine).1)),
        (Machine.identify dest machine).2)
  empty : ∀ (cell : Cell) (dest : ValueType), dest.isForeign = false → cell.isEmpty →
    (coerce cell dest).run machine =
      (.ok (.error .emptySource), (Machine.identify dest machine).2)
  missing : ∀ (holdings : List Holding) (cell : Cell) (holding : Holding) (dest : ValueType),
    machine.Accounts holdings → cell.Holds machine (some holding) → holding ∈ holdings →
    dest.isForeign = false → liveConversion? history holding.contents.payload.type dest = none →
      (coerce cell dest).run machine =
        (.ok (.error (.noConversion (Machine.identify holding.contents.payload.type machine).1
          (Machine.identify dest machine).1)), (Machine.identify dest machine).2)
  live : ∀ (holdings : List Holding) (cell : Cell) (holding : Holding) (dest : ValueType)
    (conversion : Conversion holding.contents.payload.type dest),
    machine.Accounts holdings → cell.Holds machine (some holding) → holding ∈ holdings →
    dest.isForeign = false →
    liveConversion? history holding.contents.payload.type dest = some conversion →
      let converted := ((conversion holding.contents.payload.value).run nested
        holding.contents).run (Machine.identify dest machine).2
      (coerce cell dest).run machine =
        (converted.1, match converted.1 with
          | .ok (.ok _) => converted.2.advance converted.2.heap 1 [converted.2.created] []
          | _ => converted.2)
  checked : ∀ (cell : Cell) (holding : Holding) (dest : ValueType) (destIdentity : TypeIdentity)
    (entry : RegistryEntry), cell.Holds machine (some holding) →
    machine.identity? dest = some destIdentity →
    registry.lookup cell.identity destIdentity = some entry →
      (holding.contents.payload.as? entry.source).isSome ∧
        (Receiver.blank dest).type = entry.dest

/-- An entry that is found for a value and a destination was registered with their types. -/
theorem Follows.entry_types_eq (hfollows : registry.Follows machine history)
    (hholds : cell.Holds machine (some holding)) {destIdentity : TypeIdentity}
    (hdest : machine.identity? dest = some destIdentity) {entry : RegistryEntry}
    (hfound : registry.lookup cell.identity destIdentity = some entry) :
    holding.contents.payload.type = entry.source ∧ dest = entry.dest := by
  have hsource : machine.identity? holding.contents.payload.type = some cell.identity :=
    hholds.identity?_eq hfollows.coherent
  rw [hfollows.lookup_eq (.of_identity? hsource) (.of_identity? hdest),
    liveEntry_of_types (hfollows.coherent.identity?_eq_some_iff.mp hsource).2
      (hfollows.coherent.identity?_eq_some_iff.mp hdest).2] at hfound
  obtain ⟨conversion, -, rfl⟩ := Option.map_eq_some_iff.mp hfound
  exact ⟨rfl, rfl⟩

/-- At every depth, what a registry makes of values is determined by its history. -/
theorem Follows.coercesWithin (hfollows : registry.Follows machine history) (depth : Nat) :
    registry.CoercesByHistory machine history (registry.coerceWithin (depth + 1))
      (registry.coerceWithin depth) where
  foreign cell dest hforeign := coerceWithin_foreign hfollows.coherent registry _ cell hforeign
  empty cell dest hnative hempty := coerceWithin_empty hfollows.coherent hnative hempty
  missing holdings cell holding dest haccounts hholds hmem hnative hmissing := by
    have hsource : machine.identity? holding.contents.payload.type = some cell.identity :=
      hholds.identity?_eq hfollows.coherent
    rw [Machine.identify_of_some hsource]
    exact coerceWithin_missing hfollows haccounts hholds hmem hnative hmissing
  live holdings cell holding dest conversion haccounts hholds hmem hnative hlive := by
    intro converted
    rcases hconverted : converted with ⟨outcome, after⟩
    have hfails : (∀ value, outcome ≠ .ok (.ok value)) →
        (registry.coerceWithin (depth + 1) cell dest).run machine = (outcome, after) :=
      coerceWithin_live_of_not_ok hfollows haccounts hholds hmem hnative hlive hconverted
    cases outcome with
    | error halt => exact hfails fun value heq => by cases heq
    | ok result =>
        cases result with
        | error error => exact hfails fun value heq => by cases heq
        | ok value =>
            exact coerceWithin_live_of_ok hfollows haccounts hholds hmem hnative hlive hconverted
  checked cell holding dest destIdentity entry hholds hdest hfound := by
    obtain ⟨hsource, hdest⟩ := hfollows.entry_types_eq hholds hdest hfound
    refine ⟨?_, hdest⟩
    rw [← hsource, Payload.as?_self]
    rfl

/-- The limit to the depth is one of these depths. -/
theorem Follows.coercesByHistory (hfollows : registry.Follows machine history) :
    registry.CoercesByHistory machine history registry.coerce registry.nested :=
  hfollows.coercesWithin (registry.size + 999)

/-- However a registry was reached, its history determines what it shows of itself and what it makes
of every value. It does so at every depth at which conversions ask for each other, and a coercion
that is not exhausted at one depth ends in the same way at every greater one. -/
theorem reached_registry_obeys_history (hreached : Reached history machine registry) :
    registry.ShowsHistory machine history ∧
      registry.CoercesByHistory machine history registry.coerce registry.nested ∧
      (∀ depth, registry.CoercesByHistory machine history (registry.coerceWithin (depth + 1))
        (registry.coerceWithin depth)) ∧
      ∀ depth deeper, depth ≤ deeper →
        (registry.coerceWithin depth).Approximates (registry.coerceWithin deeper) :=
  ⟨hreached.follows.showsHistory, hreached.follows.coercesByHistory,
    hreached.follows.coercesWithin, fun _ _ => registry.coerceWithin_approximates⟩

/-- A registration in an empty registry. -/
def someRegistration : RegistryOperation :=
  .register .boolean .text fun flag => .give (boolText flag)

theorem registration_obeys_history :
    let registered := someRegistration.apply .empty .fresh
    let flag := Cell.ofPayload ⟨.boolean, true⟩ registered.2
    let removed := (RegistryOperation.unregister .boolean .text).apply registered.1 flag.2
    Reached [someRegistration] flag.2 registered.1 ∧ registered.1.size = 1 ∧
      registered.1.contains ⟨1, some .boolean⟩ ⟨2, some .text⟩ = true ∧
      (registered.1.unregister .boolean .text registered.2).1.1 = true ∧
      (registered.1.unregister .text .boolean registered.2).1.1 = false ∧
      (registered.1.coerce .empty .text).run registered.2 =
        (.ok (.error .emptySource), registered.2) ∧
      (registered.1.coerce flag.1 .text).run flag.2 =
        (.ok (.ok "true"), flag.2.advance flag.2.heap 1 [flag.2.created] []) ∧
      (registered.1.coerceWithin 1 flag.1 .text).run flag.2 =
        (registered.1.coerce flag.1 .text).run flag.2 ∧
      ((registered.1.coerce flag.1 .character).run flag.2).1 =
        .ok (.error (.noConversion ⟨1, some .boolean⟩ ⟨3, some .character⟩)) ∧
      ((registered.1.coerce flag.1 .probe).run flag.2).1 =
        .ok (.error (.foreignDestination ⟨3, some .probe⟩)) ∧
      Reached [someRegistration, .unregister .boolean .text] removed.2 removed.1 ∧
      removed.1.size = 0 ∧
      removed.1.lookup ⟨1, some .boolean⟩ ⟨2, some .text⟩ = none ∧
      ((removed.1.coerce flag.1 .text).run removed.2).1 =
        .ok (.error (.noConversion ⟨1, some .boolean⟩ ⟨2, some .text⟩)) := by
  intro registered flag removed
  have hregistered : Reached [someRegistration] registered.2 registered.1 :=
    (Reached.empty .fresh).operate someRegistration
  obtain ⟨hshows, hcoerces, -⟩ := reached_registry_obeys_history hregistered
  -- a value is made in the program, and from there on the registry is asked to convert it
  have haccounts : registered.2.Accounts [] :=
    (Machine.OnlyLearns.register .empty .boolean .text _ .fresh .fresh).1.accounts .fresh
  obtain ⟨cell, made, ⟨box?, serial, payload⟩, hmade, hmakes⟩ :=
    Cell.ofPayload_makes hregistered.follows.coherent haccounts ⟨.boolean, true⟩
  obtain ⟨rfl, rfl⟩ : flag.1 = cell ∧ flag.2 = made :=
    ⟨congrArg Prod.fst hmade, congrArg Prod.snd hmade⟩
  obtain rfl : payload = ⟨.boolean, true⟩ := hmakes.payload_eq
  have hflag : Reached [someRegistration] flag.2 registered.1 :=
    hregistered.elsewhere hmakes.knows hmakes.coherent
  obtain ⟨hshown, hflagged, hdepths, -⟩ := reached_registry_obeys_history hflag
  have htext := hflagged.live _ flag.1 _ .text (fun flag => .give (boolText flag)) hmakes.accounts
    hmakes.holds List.mem_cons_self rfl rfl
  have hshallow := (hdepths 0).live _ flag.1 _ .text (fun flag => .give (boolText flag))
    hmakes.accounts hmakes.holds List.mem_cons_self rfl rfl
  -- the conversion is taken out again
  have hremoved : Reached [someRegistration, .unregister .boolean .text] removed.2 removed.1 :=
    hflag.operate (.unregister .boolean .text)
  obtain ⟨hshows', hcoerces', -⟩ := reached_registry_obeys_history hremoved
  have hboolean : flag.2.Knows ⟨1, some .boolean⟩ := .inr (by decide +kernel)
  have hknown : flag.2.Knows ⟨2, some .text⟩ := .inr (by decide +kernel)
  refine ⟨hflag, ?_, ?_, ?_, ?_, ?_, ?_, ?_, ?_, ?_, hremoved, ?_, ?_, ?_⟩
  · rw [hshows.size]
    decide +kernel
  · exact (hshown.contains _ _ hboolean hknown).mpr ⟨.boolean, .text, rfl, rfl, rfl⟩
  · rw [hshows.unregister]
    rfl
  · rw [hshows.unregister]
    rfl
  · rw [hcoerces.empty .empty .text rfl rfl]
    rfl
  · exact htext
  · rw [htext]
    exact hshallow
  · rw [hflagged.missing _ flag.1 _ .character hmakes.accounts hmakes.holds List.mem_cons_self rfl
      rfl]
    rfl
  · rw [hflagged.foreign flag.1 .probe rfl]
    rfl
  · rw [hshows'.size]
    decide +kernel
  · rw [hshows'.lookup _ _ hboolean hknown]
    rfl
  · rw [hcoerces'.missing _ flag.1 _ .text hmakes.accounts hmakes.holds List.mem_cons_self rfl
      rfl]
    rfl

end Registry

end DynamicValue
