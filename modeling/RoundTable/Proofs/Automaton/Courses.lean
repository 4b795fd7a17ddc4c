import RoundTable.Proofs.Automaton.Sends

/-!
# Courses of a send

However the steps of a sender and of the store follow each other, a send that started at a machine
at rest ends where `Machine.send` ends, and it can always go on until then. The invariant says, for
each stage of the sender, what the machine looks like: up to the offer everything but the sender's
own publication is as it was, and while the sender waits the store is on its way from the offer to
where it settles.

## Main definitions

* `Machine.Underway`: the machines and stages in the course of a send

## Main results

* `Machine.Underway.sendStep?`, `Machine.Underway.storeStep?`: every step stays in the course
* `Machine.Underway.course?`: so does every course of steps
* `Machine.Underway.exists_course`: every course can be brought to its end
-/

namespace RoundTable

/-- How many stages are left for a sender, at most. -/
def SendStage.stagesLeft {φ κ ε : Type} : SendStage φ κ ε → Nat
  | validating _ => 5
  | publishing _ _ _ => 4
  | offering _ _ _ => 3
  | waiting _ => 2
  | recording _ | retreating _ => 1
  | finished _ => 0

namespace Machine

variable {φ κ ε σ : Type} [DecidableEq φ] [DecidableEq κ] [Tagged ε κ]

/-- A machine and what the sender is about to do, in the course of a send of an event that started
at the machine `before`. -/
inductive Underway (before : Machine φ κ ε σ) (event : ε) :
    Machine φ κ ε σ → SendStage φ κ ε → Prop where
  | validating : Underway before event before (.validating event)
  | publishing {target : φ} (valid : before.validate event = .ok target) :
    Underway before event (before.note event) (.publishing event before.phase.value target)
  | offering {target : φ} (valid : before.validate event = .ok target) :
    Underway before event ((before.note event).enter target)
      (.offering event before.phase.value target)
  | waiting {target : φ} {store : Store ε σ} (valid : before.validate event = .ok target)
    (serves : store.Serves before.store.issued)
    (settles : store.settle = (before.store.offer event).1.settle) :
    Underway before event { before.launched event target with store }
      (.waiting (before.sending event target))
  | recording {target : φ} (valid : before.validate event = .ok target)
    (confirmed : before.store.issued ∈ (before.launched event target).settle.store.confirmed) :
    Underway before event (before.launched event target).settle
      (.recording (before.sending event target))
  | retreating {target : φ} (valid : before.validate event = .ok target)
    (lost : before.store.issued ∉ (before.launched event target).settle.store.confirmed) :
    Underway before event (before.launched event target).settle
      (.retreating (before.sending event target))
  | finished : Underway before event (before.send event).1 (.finished (before.send event).2)

variable {before machine next : Machine φ κ ε σ} {event : ε} {stage stage' : SendStage φ κ ε}

/-- Once the store has something to tell the sender, it has settled. -/
theorem settled_of_commitResult? (target : φ) {store : Store ε σ}
    (hserves : store.Serves before.store.issued)
    (hsettles : store.settle = (before.store.offer event).1.settle)
    {result : Except StoreError Unit}
    (hresult : store.commitResult? before.store.issued = some result) :
    { before.launched event target with store } = (before.launched event target).settle := by
  have hstore : store = (before.store.offer event).1.settle :=
    (Store.settle_of_held_eq_nil (hserves.held_eq_nil hresult)).symm.trans hsettles
  rw [hstore]
  rfl

theorem commitResult?_ok {store : Store ε σ} {ticket : Nat}
    (h : store.commitResult? ticket = some (.ok ())) : ticket ∈ store.confirmed := by
  rw [Store.commitResult?] at h
  split at h
  · assumption
  · split at h <;> cases h

theorem commitResult?_error {store : Store ε σ} {ticket : Nat} {error : StoreError}
    (h : store.commitResult? ticket = some (.error error)) : ticket ∉ store.confirmed := by
  rw [Store.commitResult?] at h
  split at h
  · cases h
  · assumption

/-- A sender that waits goes on once the store has something to tell it. -/
theorem sendStep?_waiting {sending : Sending φ κ}
    (h : machine.sendStep? (.waiting sending) = some (next, stage')) :
    next = machine ∧
      (machine.store.commitResult? sending.ticket = some (.ok ()) ∧ stage' = .recording sending ∨
        ∃ error, machine.store.commitResult? sending.ticket = some (.error error) ∧
          stage' = .retreating sending) := by
  rw [Machine.sendStep?] at h
  split at h
  case h_1 => cases h
  case h_2 hresult =>
    cases h
    exact ⟨rfl, .inl ⟨hresult, rfl⟩⟩
  case h_3 error hresult =>
    cases h
    exact ⟨rfl, .inr ⟨error, hresult, rfl⟩⟩

/-- A step of the sender stays in the course of the send. -/
theorem Underway.sendStep? (hrest : before.store.AtRest)
    (h : Underway before event machine stage)
    (hstep : machine.sendStep? stage = some (next, stage')) :
    Underway before event next stage' := by
  cases h with
  | validating =>
    cases hvalid : before.validate event with
    | error error =>
      simp only [Machine.sendStep?, hvalid] at hstep
      cases hstep
      have hfinished : Underway before event _ _ := .finished
      rwa [send_of_validate_error hvalid] at hfinished
    | ok target =>
      simp only [Machine.sendStep?, hvalid] at hstep
      cases hstep
      exact .publishing hvalid
  | publishing valid =>
    cases hstep
    exact .offering valid
  | @offering target valid =>
    cases hstep
    change Underway before event (before.launched event target)
      (.waiting ⟨before.phase.value, target, tag event, (before.store.offer event).2⟩)
    rw [Store.offer_snd]
    exact .waiting valid (hrest.serves_offer event) rfl
  | @waiting target store valid serves settles =>
    obtain ⟨rfl, ⟨hresult, rfl⟩ | ⟨error, hresult, rfl⟩⟩ := sendStep?_waiting hstep
    · have hsettled := settled_of_commitResult? target serves settles hresult
      have hconfirmed := commitResult?_ok hresult
      have hstore := congrArg Machine.store hsettled
      rw [hsettled]
      exact .recording valid (hstore ▸ hconfirmed)
    · have hsettled := settled_of_commitResult? target serves settles hresult
      have hlost := commitResult?_error hresult
      have hstore := congrArg Machine.store hsettled
      rw [hsettled]
      exact .retreating valid (hstore ▸ hlost)
  | @recording target valid confirmed =>
    cases hstep
    have hsend := send_of_validate_ok hrest valid
    rw [finish, if_pos (by exact confirmed)] at hsend
    have hfinished : Underway before event _ _ := .finished
    rwa [hsend] at hfinished
  | @retreating target valid lost =>
    cases hstep
    have hsend := send_of_validate_ok hrest valid
    rw [finish, if_neg (by exact lost)] at hsend
    have hfinished : Underway before event _ _ := .finished
    rwa [hsend] at hfinished
  | finished => cases hstep

/-- While the sender does not wait for it, the store has nothing to do. -/
theorem Underway.held_eq_nil (hrest : before.store.AtRest)
    (h : Underway before event machine stage) (hstage : ∀ sending, stage ≠ .waiting sending) :
    machine.store.held = [] := by
  cases h with
  | validating | publishing | offering => exact hrest.held
  | waiting => exact absurd rfl (hstage _)
  | recording | retreating => exact (hrest.settled event).held
  | finished => exact (atRest_send hrest event).held

/-- A step of the store stays in the course of the send. -/
theorem Underway.storeStep? (hrest : before.store.AtRest)
    (h : Underway before event machine stage) {move : StoreMove}
    (hstep : machine.storeStep? move = some next) : Underway before event next stage := by
  obtain ⟨store, hmove, rfl⟩ := Option.map_eq_some_iff.mp hstep
  by_cases hstage : ∃ sending, stage = .waiting sending
  · obtain ⟨sending, rfl⟩ := hstage
    cases h with
    | waiting valid serves settles =>
      obtain ⟨hserves, hsettle⟩ := serves.move? hmove
      exact .waiting valid hserves (hsettle.trans settles)
  · have hheld := h.held_eq_nil hrest fun sending hs => hstage ⟨sending, hs⟩
    rw [Store.move?_of_held_eq_nil hheld] at hmove
    cases hmove

/-- **Every course of a send.** Whichever way the steps of the sender and of the store follow each
other, they stay in the course of the send. -/
theorem Underway.course? (hrest : before.store.AtRest) {labels : List SendLabel}
    (h : Underway before event machine stage)
    (hcourse : machine.course? stage labels = some (next, stage')) :
    Underway before event next stage' := by
  induction labels generalizing machine stage with
  | nil =>
    cases hcourse
    exact h
  | cons label labels ih =>
    cases label with
    | sender =>
      obtain ⟨⟨machine', stage₁⟩, hstep, hlabels⟩ := Option.bind_eq_some_iff.mp hcourse
      exact ih (h.sendStep? hrest hstep) hlabels
    | store move =>
      obtain ⟨machine', hstep, hlabels⟩ := Option.bind_eq_some_iff.mp hcourse
      exact ih (h.storeStep? hrest hstep) hlabels

/-! ### Coming to an end -/

theorem stagesLeft_sendStep? (hstep : machine.sendStep? stage = some (next, stage')) :
    stage'.stagesLeft < stage.stagesLeft := by
  cases stage with
  | validating event =>
    rw [Machine.sendStep?] at hstep
    split at hstep <;> cases hstep <;> simp [SendStage.stagesLeft]
  | waiting sending =>
    rw [Machine.sendStep?] at hstep
    split at hstep <;> cases hstep <;> simp [SendStage.stagesLeft]
  | publishing | offering | recording | retreating =>
    cases hstep
    simp [SendStage.stagesLeft]
  | finished => cases hstep

/-- **No send gets stuck.** Wherever a send stands, there are steps that bring it to its end. The
sender runs out of stages, and while it waits the store runs out of work. -/
theorem Underway.exists_course {machine : Machine φ κ ε σ} {stage : SendStage φ κ ε}
    (hrest : before.store.AtRest) (h : Underway before event machine stage) :
    ∃ labels, machine.course? stage labels =
      some ((before.send event).1, .finished (before.send event).2) := by
  cases hstep : machine.sendStep? stage with
  | some result =>
    obtain ⟨labels, hlabels⟩ := (h.sendStep? hrest hstep).exists_course hrest
    exact ⟨.sender :: labels, by rw [Machine.course?, hstep]; exact hlabels⟩
  | none =>
    cases h with
    | validating =>
      rw [Machine.sendStep?] at hstep
      split at hstep <;> cases hstep
    | publishing | offering | recording | retreating => cases hstep
    | @waiting target store valid serves settles =>
      have hresult : store.commitResult? before.store.issued = none := by
        rw [Machine.sendStep?] at hstep
        split at hstep
        · assumption
        · cases hstep
        · cases hstep
      obtain ⟨store', hloop⟩ := serves.exists_advance? hresult
      have hmove : Machine.storeStep? { before.launched event target with store } .loop =
          some { before.launched event target with store := store' } := by
        rw [Machine.storeStep?, Store.move?]
        exact congrArg (Option.map _) hloop
      have hlt := Store.workload_advance? hloop
      obtain ⟨labels, hlabels⟩ :=
        ((Underway.waiting valid serves settles).storeStep? hrest hmove).exists_course hrest
      exact ⟨.store .loop :: labels, by rw [Machine.course?, hmove]; exact hlabels⟩
    | finished => exact ⟨[], rfl⟩
termination_by (stage.stagesLeft, machine.store.workload)
decreasing_by
  · exact Prod.Lex.right _ hlt
  · exact Prod.Lex.left _ _ (stagesLeft_sendStep? hstep)

end Machine

end RoundTable
