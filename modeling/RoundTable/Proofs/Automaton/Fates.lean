import Mathlib.Data.List.Sort
import RoundTable.Proofs.Automaton.Launches

/-!
# What becomes of the senders of a batch

The senders of a batch are known by their places. Once it is settled which tickets are confirmed, it
is settled what becomes of each of them, whenever it goes on: its event passes or is lost. What is
found at places in any order is a rearrangement of what is found in the order of the batch, and that
is the first valid events, which pass, and the other ones, which are lost.

## Main definitions

* `sendingAt?`: the send of the sender with a given place, as long as it waits
* `BatchStage.resultBy`: what a sender learns
* `SenderFate`: what becomes of one sender of a batch

## Main results

* `filterMap_perm_range`, `filterMap_eq_range`: what is found at places in any order, and in the
  order of the batch
* `fate_enroll`: the senders of a batch have the fates by which its outcomes go
* `filterMap_passedAt?`, `filterMap_lostAt?`: the events that pass and those that are lost
-/

namespace RoundTable

variable {φ κ ε σ : Type}

/-! ### Places -/

theorem filterMap_filter_isSome {α β : Type} (f : α → Option β) (l : List α) :
    (l.filter fun a => (f a).isSome).filterMap f = l.filterMap f := by
  rw [List.filterMap_filter]
  refine List.filterMap_congr fun a _ => ?_
  cases f a <;> rfl

theorem filterMap_range_succ {α : Type} (f : Nat → Option α) (length : Nat) :
    (List.range (length + 1)).filterMap f =
      (f 0).toList ++ (List.range length).filterMap (f ∘ Nat.succ) := by
  rw [List.range_succ_eq_map, List.filterMap_cons, List.filterMap_map]
  cases f 0 <;> rfl

section

variable {α : Type} {f : Nat → Option α} {places : List Nat} {length : Nat}

theorem mem_filter_isSome_iff (hfound : ∀ place, (f place).isSome → place ∈ places ∧ place < length)
    (place : Nat) :
    place ∈ places.filter (fun place => (f place).isSome) ↔
      place ∈ (List.range length).filter fun place => (f place).isSome := by
  rw [List.mem_filter, List.mem_filter, List.mem_range]
  exact ⟨fun h => ⟨(hfound place h.2).2, h.2⟩, fun h => ⟨(hfound place h.2).1, h.2⟩⟩

/-- If nothing is found elsewhere, what is found at different places is, up to the order, all that
there is. -/
theorem filterMap_perm_range (hnodup : places.Nodup)
    (hfound : ∀ place, (f place).isSome → place ∈ places ∧ place < length) :
    (places.filterMap f).Perm ((List.range length).filterMap f) := by
  rw [← filterMap_filter_isSome f places, ← filterMap_filter_isSome f (List.range length)]
  refine List.Perm.filterMap f ?_
  rw [List.perm_ext_iff_of_nodup (hnodup.filter _) (List.nodup_range.filter _)]
  exact mem_filter_isSome_iff hfound

/-- If nothing is found elsewhere, what is found at places in ascending order is all that there is,
in its order. -/
theorem filterMap_eq_range (hsorted : places.Pairwise (· < ·))
    (hfound : ∀ place, (f place).isSome → place ∈ places ∧ place < length) :
    places.filterMap f = (List.range length).filterMap f := by
  rw [← filterMap_filter_isSome f places, ← filterMap_filter_isSome f (List.range length)]
  congr 1
  exact (hsorted.filter _).eq_of_mem_iff (List.pairwise_lt_range.filter _)
    (mem_filter_isSome_iff hfound)

end

@[simp] theorem goingOn_store (moves : List StoreMove) (labels : List BatchLabel) :
    goingOn (moves.map .store ++ labels) = goingOn labels := by
  induction moves with
  | nil => rfl
  | cons move moves ih => exact ih

@[simp] theorem goingOn_sender (places : List Nat) : goingOn (places.map .sender) = places := by
  induction places with
  | nil => rfl
  | cons place places ih => exact congrArg (place :: ·) ih

/-! ### Senders -/

namespace BatchStage

/-- The send of a sender that waits. -/
def sending? : BatchStage φ κ ε → Option (Sending φ κ)
  | waiting sending => some sending
  | through _ => none

/-- What a sender learns in the end, if the given tickets are confirmed. -/
def resultBy (confirmed : List Nat) : BatchStage φ κ ε → Except (TransitionError φ ε) Unit
  | waiting sending => if sending.ticket ∈ confirmed then .ok () else .error (.store .closed)
  | through result => result

end BatchStage

/-- The send of the sender with the given place, as long as it waits. -/
def sendingAt? (senders : List (BatchStage φ κ ε)) (place : Nat) : Option (Sending φ κ) :=
  senders[place]?.bind BatchStage.sending?

variable {senders later : List (BatchStage φ κ ε)} {place : Nat} {sending : Sending φ κ}

theorem getElem?_of_sendingAt? (h : sendingAt? senders place = some sending) :
    senders[place]? = some (.waiting sending) := by
  obtain ⟨stage, hstage, hsending⟩ := Option.bind_eq_some_iff.mp h
  cases stage with
  | waiting other =>
    cases hsending
    exact hstage
  | through result => cases hsending

/-- A sender that is through does not wait any more, and the others wait as before. -/
theorem sendingAt?_set (h : sendingAt? senders place = some sending)
    (result : Except (TransitionError φ ε) Unit) (other : Nat) :
    sendingAt? (senders.set place (.through result)) other =
      if other = place then none else sendingAt? senders other := by
  have hlt := (List.getElem?_eq_some_iff.mp (getElem?_of_sendingAt? h)).1
  rw [sendingAt?, List.getElem?_set]
  by_cases heq : place = other
  · subst heq
    rw [if_pos rfl, if_pos hlt, if_pos rfl]
    rfl
  · rw [if_neg heq, if_neg (Ne.symm heq), sendingAt?]

/-- At other places everything is as before. -/
theorem filterMap_sendingAt?_set (h : sendingAt? senders place = some sending)
    (result : Except (TransitionError φ ε) Unit) {places : List Nat} (hother : place ∉ places) :
    places.filterMap (sendingAt? (senders.set place (.through result))) =
      places.filterMap (sendingAt? senders) := by
  refine List.filterMap_congr fun other hmem => ?_
  rw [sendingAt?_set h, if_neg]
  rintro rfl
  exact hother hmem

/-- To be through with what it learns in the end makes no difference for the results. -/
theorem map_resultBy_set {confirmed : List Nat} {result : Except (TransitionError φ ε) Unit}
    (h : sendingAt? senders place = some sending)
    (hresult : BatchStage.resultBy confirmed (.waiting sending) = result) :
    (senders.set place (.through result)).map (BatchStage.resultBy confirmed) =
      senders.map (BatchStage.resultBy confirmed) := by
  have hsame : (senders.map (BatchStage.resultBy confirmed))[place]? =
      some (BatchStage.resultBy confirmed (.through result : BatchStage φ κ ε)) := by
    rw [List.getElem?_map, getElem?_of_sendingAt? h, Option.map_some, hresult]
    rfl
  obtain ⟨hlt, heq⟩ := List.getElem?_eq_some_iff.mp hsame
  rw [List.map_set, ← heq, List.set_getElem_self]

theorem eq_through_of_mapM {results : List (Except (TransitionError φ ε) Unit)}
    (h : senders.mapM BatchStage.result? = some results) : senders = results.map .through := by
  induction senders generalizing results with
  | nil =>
    cases h
    rfl
  | cons stage senders ih =>
    rw [List.mapM_cons] at h
    obtain ⟨result, hresult, h⟩ := Option.bind_eq_some_iff.mp h
    obtain ⟨others, hothers, h⟩ := Option.bind_eq_some_iff.mp h
    cases h
    cases stage with
    | waiting sending => cases hresult
    | through result =>
      cases hresult
      rw [List.map_cons, ← ih hothers]

/-- Senders of which nobody waits are through, with what they learn in any case. -/
theorem mapM_result?_of_sendingAt? (h : ∀ place, sendingAt? senders place = none)
    (confirmed : List Nat) :
    senders.mapM BatchStage.result? = some (senders.map (BatchStage.resultBy confirmed)) := by
  induction senders with
  | nil => rfl
  | cons stage senders ih =>
    cases stage with
    | waiting sending => cases h 0
    | through result =>
      rw [List.mapM_cons, ih fun place => h (place + 1)]
      rfl

theorem sendingAt?_through (results : List (Except (TransitionError φ ε) Unit)) (place : Nat) :
    sendingAt? (results.map .through : List (BatchStage φ κ ε)) place = none := by
  rw [sendingAt?, List.getElem?_map]
  cases results[place]? <;> rfl

/-- The sends of those that wait, in the order of their places. -/
theorem filterMap_sendingAt? (senders : List (BatchStage φ κ ε)) :
    (List.range senders.length).filterMap (sendingAt? senders) =
      senders.filterMap BatchStage.sending? := by
  induction senders with
  | nil => rfl
  | cons stage senders ih =>
    have hrest : sendingAt? (stage :: senders) ∘ Nat.succ = sendingAt? senders := by
      funext place
      simp [sendingAt?]
    rw [List.length_cons, filterMap_range_succ, hrest, ih]
    cases stage <;> rfl

/-! ### What becomes of a sender -/

theorem outcomes_error (n : Nat) (error : TransitionError φ ε)
    (rest : List (Except (TransitionError φ ε) (Valid φ ε))) :
    outcomes n (.error error :: rest) = .error error :: outcomes n rest := by
  cases n <;> rfl

/-- What becomes of a sender of a batch, if the given tickets are confirmed: it has been through
from its start, or its valid event passes, or it is lost. -/
inductive SenderFate [Tagged ε κ] (confirmed : List Nat) :
    Option (Sending φ κ) → Option (Valid φ ε) → Option (Valid φ ε) → Prop where
  | through : SenderFate confirmed none none none
  | passes {valid : Valid φ ε} {ticket : Nat} (kept : ticket ∈ confirmed) :
    SenderFate confirmed (some ⟨valid.source, valid.target, tag valid.event, ticket⟩)
      (some valid) none
  | fails {valid : Valid φ ε} {ticket : Nat} (gone : ticket ∉ confirmed) :
    SenderFate confirmed (some ⟨valid.source, valid.target, tag valid.event, ticket⟩)
      none (some valid)

section

variable [Tagged ε κ] {judged : List (Except (TransitionError φ ε) (Valid φ ε))}
  {confirmed : List Nat} {first n : Nat}

/-- What is known of the tickets of a batch without its first one. -/
theorem confirmed_succ (hconfirmed : ∀ k, first + k ∈ confirmed ↔ k < n) :
    (first ∈ confirmed ↔ 0 < n) ∧ ∀ k, first + 1 + k ∈ confirmed ↔ k < n - 1 := by
  refine ⟨hconfirmed 0, fun k => ?_⟩
  rw [Nat.add_assoc, Nat.add_comm 1 k, hconfirmed (k + 1)]
  omega

/-- If the first tickets of a batch are confirmed, the fates of its senders are those by which the
outcomes go. -/
theorem fate_enroll (hconfirmed : ∀ k, first + k ∈ confirmed ↔ k < n) (place : Nat) :
    SenderFate (κ := κ) confirmed (sendingAt? ((enroll first judged).map .ofStart) place)
      (passedAt? judged (outcomes n judged) place) (lostAt? judged (outcomes n judged) place) := by
  induction judged generalizing first n place with
  | nil => exact .through
  | cons judged rest ih =>
    cases judged with
    | error error =>
      rw [outcomes_error]
      cases place with
      | zero => exact .through
      | succ place => exact ih hconfirmed place
    | ok valid =>
      obtain ⟨hfirst, hrest⟩ := confirmed_succ hconfirmed
      cases n with
      | zero =>
        cases place with
        | zero => exact .fails fun hmem => Nat.lt_irrefl 0 (hfirst.mp hmem)
        | succ place => exact ih hrest place
      | succ n =>
        cases place with
        | zero => exact .passes (hfirst.mpr (Nat.succ_pos n))
        | succ place => exact ih hrest place

/-- If the first tickets of a batch are confirmed, its outcomes are what the senders learn. -/
theorem map_resultBy_enroll (hconfirmed : ∀ k, first + k ∈ confirmed ↔ k < n) :
    ((enroll first judged : List (Except _ (Sending φ κ))).map .ofStart).map
      (BatchStage.resultBy confirmed) = outcomes n judged := by
  induction judged generalizing first n with
  | nil => simp [enroll, outcomes]
  | cons judged rest ih =>
    cases judged with
    | error error =>
      rw [outcomes_error]
      exact congrArg (.error error :: ·) (ih hconfirmed)
    | ok valid =>
      obtain ⟨hfirst, hrest⟩ := confirmed_succ hconfirmed
      rw [enroll, List.map_cons, List.map_cons, BatchStage.ofStart, BatchStage.resultBy]
      cases n with
      | zero =>
        rw [if_neg fun hmem => Nat.lt_irrefl 0 (hfirst.mp hmem), ih hrest]
        rfl
      | succ n =>
        rw [if_pos (hfirst.mpr (Nat.succ_pos n)), ih hrest]
        rfl

/-- A sender of a batch waits if its event is valid. -/
theorem isSome_sendingAt?_enroll (first place : Nat) :
    (sendingAt? ((enroll first judged : List (Except _ (Sending φ κ))).map .ofStart) place).isSome ↔
      ∃ valid, judged[place]? = some (.ok valid) := by
  induction judged generalizing first place with
  | nil => simp [enroll, sendingAt?]
  | cons judged rest ih =>
    cases place with
    | zero =>
      cases judged with
      | error error => simp [enroll, sendingAt?, BatchStage.ofStart, BatchStage.sending?]
      | ok valid => simp [enroll, sendingAt?, BatchStage.ofStart, BatchStage.sending?]
    | succ place =>
      cases judged with
      | error error => exact ih first place
      | ok valid => exact ih (first + 1) place

end

theorem passedAt?_cons (judged : Except (TransitionError φ ε) (Valid φ ε))
    (rest : List (Except (TransitionError φ ε) (Valid φ ε)))
    (result : Except (TransitionError φ ε) Unit)
    (results : List (Except (TransitionError φ ε) Unit)) :
    passedAt? (judged :: rest) (result :: results) ∘ Nat.succ = passedAt? rest results :=
  rfl

theorem lostAt?_cons (judged : Except (TransitionError φ ε) (Valid φ ε))
    (rest : List (Except (TransitionError φ ε) (Valid φ ε)))
    (result : Except (TransitionError φ ε) Unit)
    (results : List (Except (TransitionError φ ε) Unit)) :
    lostAt? (judged :: rest) (result :: results) ∘ Nat.succ = lostAt? rest results :=
  rfl

/-- In the order of the batch, the events that pass are the first valid ones. -/
theorem filterMap_passedAt? (n : Nat) (judged : List (Except (TransitionError φ ε) (Valid φ ε))) :
    (List.range judged.length).filterMap (passedAt? judged (outcomes n judged)) =
      (validOf judged).take n := by
  induction judged generalizing n with
  | nil => simp [validOf]
  | cons judged rest ih =>
    rw [List.length_cons, filterMap_range_succ]
    cases judged with
    | error error =>
      rw [outcomes_error, passedAt?_cons, ih]
      rfl
    | ok valid =>
      cases n with
      | zero =>
        rw [outcomes, passedAt?_cons, ih]
        rfl
      | succ n =>
        rw [outcomes, passedAt?_cons, ih]
        rfl

/-- In the order of the batch, the events that are lost are the other valid ones. -/
theorem filterMap_lostAt? (n : Nat) (judged : List (Except (TransitionError φ ε) (Valid φ ε))) :
    (List.range judged.length).filterMap (lostAt? judged (outcomes n judged)) =
      (validOf judged).drop n := by
  induction judged generalizing n with
  | nil => simp [validOf]
  | cons judged rest ih =>
    rw [List.length_cons, filterMap_range_succ]
    cases judged with
    | error error =>
      rw [outcomes_error, lostAt?_cons, ih]
      rfl
    | ok valid =>
      cases n with
      | zero =>
        rw [outcomes, lostAt?_cons, ih]
        rfl
      | succ n =>
        rw [outcomes, lostAt?_cons, ih]
        rfl

end RoundTable
