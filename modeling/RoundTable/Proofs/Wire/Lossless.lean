import RoundTable.Proofs.Wire.Identifiers
import RoundTable.Wire.Session

/-!
# The wire loses nothing

Whatever travels is read back from its compact text as the value it was, however deep: a state in a
reply in a command too. Names and reasons may be any texts at all. The only thing that may not fit is
a number without a bound of its own, such as the number of a call, whose field has sixty-four bits.

Each type is read back because its parts are. The types whose values always fit are lawful once and
for all; about the others it is shown of each value that fits.

## Main definitions

* `GameState.InRange`, `Request.InRange`, `Reply.InRange`, `Command.InRange`,
  `TableConfig.InRange`: values whose numbers fit
* `Wire.Lossless`: types of whose values that fit nothing is lost

## Main results

* `Wire.lossless`: nothing of what travels is lost, and no two values share a text
-/

namespace RoundTable

/-! ### Constants -/

instance : LawfulCatalogue BugReport := ⟨fun a => by cases a <;> decide, by decide⟩
instance : LawfulCatalogue Excuse := ⟨fun a => by cases a <;> decide, by decide⟩
instance : LawfulCatalogue Solution := ⟨fun a => by cases a <;> decide, by decide⟩
instance : LawfulCatalogue SpecialAction := ⟨fun a => by cases a <;> decide, by decide⟩
instance : LawfulCatalogue Stumbling := ⟨fun a => by cases a <;> decide, by decide⟩
instance : LawfulCatalogue Role := ⟨fun a => by cases a <;> decide, by decide⟩
instance : LawfulCatalogue Character := ⟨fun a => by cases a <;> decide, by decide⟩
instance : LawfulCatalogue Turn := ⟨fun a => by cases a <;> decide, by decide⟩
instance : LawfulCatalogue Outcome := ⟨fun a => by cases a <;> decide, by decide⟩
instance : LawfulCatalogue EventKind := ⟨fun a => by cases a <;> decide, by decide⟩

/-! ### Ranges -/

/-- Whether the position of the current seat fits its field. -/
def GameState.InRange (state : GameState) : Prop := state.current < UInt64.size

/-- Whether the number of cards to select, if there is one, fits its field. -/
def Request.InRange : Request → Prop
  | .selectDiscardCards amount => amount < UInt64.size
  | _ => True

/-- Whether the state in a reply, if there is one, fits. -/
def Reply.InRange : Reply → Prop
  | .state shown => shown.InRange
  | _ => True

/-- Whether the number of the call and what there is to do or to know fit. -/
def Command.InRange : Command → Prop
  | .delegate _ call action => call.number < UInt64.size ∧ action.InRange
  | .result _ call value => call.number < UInt64.size ∧ value.InRange

/-- Whether the numbers of cards fit their fields. -/
def TableConfig.InRange (config : TableConfig) : Prop :=
  config.drawCount < UInt64.size ∧ config.handSize < UInt64.size

namespace Wire

/-! ### What always fits -/

instance : LawfulWire Uuid where
  faithful id := by
    refine ⟨Json.isPlain_text _, ?_⟩
    show ((Json.text (String.ofList id.write)).text?.bind fun text => Uuid.read? text.toList) = _
    simp [Uuid.read?_write]

instance : LawfulWire PlayerId where
  faithful id := by
    refine ⟨isPlain_encode id.number, ?_⟩
    show (decode? (encode id.number)).map PlayerId.mk = _
    simp

instance : LawfulWire Card where
  faithful card := by
    cases card
    all_goals
      refine ⟨Json.isPlain_tagged (isPlain_encode _), ?_⟩
      simp [decode?, encode, Json.isBare]

instance : LawfulWire (Option Card) :=
  lawfulWire_option fun card => by cases card <;> nofun

instance : LawfulWire Player where
  faithful player := by
    refine ⟨Json.isPlain_record ?_, ?_⟩
    · simp [isPlain_encode]
    · refine (Json.bind_fields?_record (by rfl) (by decide)).trans ?_
      simp [required?]

instance : LawfulWire PendingAttack where
  faithful attack := by
    refine ⟨Json.isPlain_record ?_, ?_⟩
    · simp [isPlain_encode]
    · refine (Json.bind_fields?_record (by rfl) (by decide)).trans ?_
      simp [required?]

instance : LawfulWire (Option PendingAttack) := lawfulWire_option fun _ => nofun

/-- The entries are put back one after another. -/
theorem foldlM_entries (entries : List (PlayerId × List Card)) (front : FrontCards)
    (hsorted : (front.entries ++ entries).Pairwise fun a b => a.1 < b.1) :
    (entries.map fun e => (Text.digits e.1.number.toNat, encode e.2)).foldlM
      (fun front member => do
        let id ← seat? member.1
        let cards ← decode? member.2
        some (front.set id cards)) front = some ⟨front.entries ++ entries, hsorted⟩ := by
  induction entries generalizing front with
  | nil => simp
  | cons e entries ih =>
    have hlast : ∀ other ∈ front.entries, other.1 < e.1 := fun other hother =>
      (List.pairwise_append.mp hsorted).2.2 other hother e List.mem_cons_self
    have hset : (front.set e.1 e.2).entries = front.entries ++ [e] :=
      FrontCards.put_of_forall_lt hlast
    have hrest := ih (front.set e.1 e.2) (by rw [hset, List.append_assoc]; exact hsorted)
    simp only [hset, List.append_assoc, List.cons_append, List.nil_append] at hrest
    simpa [List.foldlM_cons, seat?_digits] using hrest

instance : LawfulWire FrontCards where
  faithful front := by
    refine ⟨.object (fun member hmember => ?_) (fun member hmember => ?_), ?_⟩
    · obtain ⟨e, -, rfl⟩ := List.mem_map.mp hmember
      exact ⟨_, (Json.escape_of_isDigit (Text.isDigit_of_mem_digits _)).symm⟩
    · obtain ⟨e, -, rfl⟩ := List.mem_map.mp hmember
      exact isPlain_encode e.2
    · exact foldlM_entries front.entries .empty front.sorted

instance : LawfulWire GameEvent where
  faithful event := by
    cases event
    all_goals
      refine ⟨Json.isPlain_tagged (Json.isPlain_record ?_), ?_⟩
      · simp [isPlain_encode]
      · refine (Json.bind_variant?_taggedRecord (by rfl) (by rfl) (by decide)).trans ?_
        simp [required?, optional?]

instance {κ : Type} [Wire κ] [LawfulWire κ] : LawfulWire (Selector κ) where
  faithful selector := by
    have hread (name : String) (content : Json) :
        (decode? (Json.tagged name content) : Option (Selector κ)) =
          match some (name, some content) with
          | some ("Tag", some content) => (decode? content).map .tag
          | some ("AnyOf", some content) => (decode? content).map .anyOf
          | _ => none := by
      rw [← Json.variant?_tagged]
      rfl
    cases selector
    all_goals
      refine ⟨Json.isPlain_tagged (isPlain_encode _), (hread _ _).trans ?_⟩
      simp

instance : LawfulWire TurnReport where
  faithful report := by
    refine ⟨Json.isPlain_record ?_, ?_⟩
    · simp [isPlain_encode]
    · refine (Json.bind_fields?_record (by rfl) (by decide)).trans ?_
      simp [required?]

instance : LawfulWire Party where
  faithful party := by
    cases party
    case server => exact ⟨Json.isPlain_text _, by decide⟩
    case participant id =>
      refine ⟨Json.isPlain_tagged (isPlain_encode _), ?_⟩
      refine Json.bind_variant?_tagged.trans ?_
      simp

/-! ### What has to fit -/

/-- A state is read back if the position of the current seat fits. -/
theorem faithful_state {state : GameState} (h : state.InRange) : Faithful state := by
  have hcurrent := faithful_nat h
  refine ⟨Json.isPlain_record ?_, ?_⟩
  · simp [isPlain_encode, hcurrent.isPlain]
  · refine (Json.bind_fields?_record (by rfl) (by decide)).trans ?_
    simp [required?, optional?, hcurrent.decode?_encode]

/-- A configuration is read back if its numbers of cards fit. -/
theorem faithful_config {config : TableConfig} (h : config.InRange) : Faithful config := by
  have hdraw := faithful_nat h.1
  have hhand := faithful_nat h.2
  refine ⟨Json.isPlain_record ?_, ?_⟩
  · simp [isPlain_encode, hdraw.isPlain, hhand.isPlain]
  · refine (Json.bind_fieldsOrFewer?_record (by rfl) (by decide)).trans ?_
    simp [withDefault?, hdraw.decode?_encode, hhand.decode?_encode]

/-- The number of a call is read back if it fits. -/
theorem faithful_call {call : CallId} (h : call.number < UInt64.size) : Faithful call := by
  have hnumber := faithful_nat h
  refine ⟨hnumber.isPlain, ?_⟩
  show (decode? (encode call.number)).map CallId.mk = _
  rw [hnumber.decode?_encode]
  rfl

/-- A request is read back if the number of cards to select fits. -/
theorem faithful_request {request : Request} (h : request.InRange) : Faithful request := by
  cases request
  case selectDiscardCards amount =>
    have hamount := faithful_nat h
    refine ⟨Json.isPlain_tagged (Json.isPlain_record (by simp [hamount.isPlain])), ?_⟩
    refine (Json.bind_variant?_taggedRecord (by rfl) (by rfl) (by decide)).trans ?_
    simp [required?, hamount.decode?_encode]
  case attackPlayer | defendAttack | handleStumbling | discard =>
    refine ⟨Json.isPlain_tagged (Json.isPlain_record (by simp [isPlain_encode])), ?_⟩
    refine (Json.bind_variant?_taggedRecord (by rfl) (by rfl) (by decide)).trans ?_
    simp [required?, optional?]
  all_goals exact ⟨Json.isPlain_text _, by decide⟩

/-- A reply is read back if the state in it fits. -/
theorem faithful_reply {reply : Reply} (h : reply.InRange) : Faithful reply := by
  cases reply
  case unit => exact ⟨Json.isPlain_text _, by decide⟩
  case state shown =>
    have hstate := faithful_state h
    refine ⟨Json.isPlain_tagged hstate.isPlain, Json.bind_variant?_tagged.trans ?_⟩
    simp [hstate.decode?_encode]
  all_goals
    refine ⟨Json.isPlain_tagged (isPlain_encode _), Json.bind_variant?_tagged.trans ?_⟩
    simp

/-- A command is read back if its call and its content fit. -/
theorem faithful_command {command : Command} (h : command.InRange) : Faithful command := by
  cases command
  case delegate origin call action =>
    have hcall := faithful_call h.1
    have haction := faithful_request h.2
    refine ⟨Json.isPlain_tagged (Json.isPlain_record ?_),
      (Json.bind_variant?_taggedRecord (by rfl) (by rfl) (by decide)).trans ?_⟩
    · simp [isPlain_encode, hcall.isPlain, haction.isPlain]
    · simp [required?, hcall.decode?_encode, haction.decode?_encode]
  case result origin call value =>
    have hcall := faithful_call h.1
    have hvalue := faithful_reply h.2
    refine ⟨Json.isPlain_tagged (Json.isPlain_record ?_),
      (Json.bind_variant?_taggedRecord (by rfl) (by rfl) (by decide)).trans ?_⟩
    · simp [isPlain_encode, hcall.isPlain, hvalue.isPlain]
    · simp [required?, hcall.decode?_encode, hvalue.decode?_encode]

/-! ### Nothing is lost -/

/-- What fits is read back from its text, so no two values that fit share a text. -/
structure Lossless {α : Type} [Wire α] (fits : α → Prop) : Prop where
  ofText?_toText {a : α} (h : fits a) : ofText? (toText a) = some a
  toText_injective {a b : α} (ha : fits a) (hb : fits b) (h : toText a = toText b) : a = b

theorem Lossless.of_faithful {α : Type} [Wire α] {fits : α → Prop}
    (h : ∀ a, fits a → Faithful a) : Lossless fits where
  ofText?_toText ha := (h _ ha).ofText?_toText
  toText_injective {a b} ha hb htext := by
    have hread := (h a ha).ofText?_toText
    rw [htext, (h b hb).ofText?_toText] at hread
    exact (Option.some.inj hread).symm

/-- Nothing of what travels is lost: states, events, requests, replies, commands, reports, selectors
of events and configurations. -/
theorem lossless :
    Lossless GameState.InRange ∧ Lossless (fun _ : GameEvent => True) ∧
      Lossless Request.InRange ∧ Lossless Reply.InRange ∧ Lossless Command.InRange ∧
      Lossless (fun _ : TurnReport => True) ∧ Lossless (fun _ : Selector EventKind => True) ∧
      Lossless TableConfig.InRange := by
  refine ⟨.of_faithful fun _ => faithful_state, .of_faithful fun _ _ => faithful _,
    .of_faithful fun _ => faithful_request, .of_faithful fun _ => faithful_reply,
    .of_faithful fun _ => faithful_command, .of_faithful fun _ _ => faithful _,
    .of_faithful fun _ _ => faithful _, .of_faithful fun _ => faithful_config⟩

/-- So is a state in a reply in a command, with a name that needs escapes and cards in front of a
player, and the number of its call is the largest there is. -/
theorem lossless_nested :
    let player : Player :=
      ⟨⟨4294967295⟩, "\"\\\n\x00é", .consultant, .kentBeck, 4, 3, [.bug .offByOne]⟩
    let front : FrontCards :=
      FrontCards.empty.push ⟨10⟩ (.stumbling .offTheJobTraining) |>.push ⟨9⟩ (.excuse .itsAFeature)
    let state : GameState :=
      ⟨.zero, [player], [.solution .coffee], [], front, .draw, 0, some ⟨⟨1⟩, ⟨2⟩, .coreDump⟩⟩
    let command : Command := .result (.participant ⟨1⟩) ⟨UInt64.size - 1⟩ (.state state)
    command.InRange ∧ ofText? (toText command) = some command := by
  intro player front state command
  have hcurrent : state.InRange := show 0 < UInt64.size by decide
  have hfits : command.InRange := ⟨by decide, hcurrent⟩
  exact ⟨hfits, lossless.2.2.2.2.1.ofText?_toText hfits⟩

end Wire

end RoundTable
