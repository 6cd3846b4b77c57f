import Nameplate.Proofs.Json.Record
import Nameplate.Server.Basic

/-!
# What a client says about an edit

A client says whether it has applied an edit, and may say why not and at which change it failed. It
says so in an object, in any order and with any other members, or in an array of the three values.
Anything else cannot be read. What it says decides about the answer to the command that found the
edit.

* `Applied.Says`: what the three values say;
* `Applied.Told`: what a reply says;
* `Applied.read_iff`: a reply is read as what it says;
* `Applied.Told.unique`: and it says one thing only;
* `Judged`: what the reply of a client makes of an edit;
* `judged_outcomeOf`: a command is answered by it;
* `Judged.unique`: and there is one such answer only.
-/

namespace Nameplate.Server

open Json (Value Field bind_eq_ok checked_eq_ok fromArray_eq_ok fromObject_eq_ok
  valueOf_sortedMembers)

/-- What the values for `applied`, `failureReason` and `failedChange` say. A reason and a change
that are missing are null. -/
structure Applied.Says (a : Applied) (applied reason change : Value) : Prop where
  applied : applied = .bool a.applied
  reason : reason = a.reason.elim .null .string
  change : change = .null ∨ ∃ n : Nat, n < 0x100000000 ∧ change = .integer n

/-- What a client says in a reply, in an object or in an array. -/
inductive Applied.Told (a : Applied) : Value → Prop where
  | object {ms : List (String × Value)} :
      a.Says (((Value.object ms).get? "applied").getD .null)
        (((Value.object ms).get? "failureReason").getD .null)
        (((Value.object ms).get? "failedChange").getD .null) → Told a (.object ms)
  | array {applied reason change : Value} :
      a.Says applied reason change → Told a (.array [applied, reason, change])

/-! ## Single values -/

theorem boolean_eq_ok {v : Value} {b : Bool} : Json.boolean v = .ok b ↔ v = .bool b := by
  cases v <;> simp [Json.boolean]

theorem optional_text_eq_ok {v : Value} {reason : Option String} :
    Json.optional Json.text v = .ok reason ↔ v = reason.elim .null .string := by
  cases v <;> cases reason <;> simp [Json.optional, Json.text, Except.map]

theorem nat32_eq_ok {v : Value} {n : Nat} :
    Json.nat32 v = .ok n ↔ n < 0x100000000 ∧ v = .integer n := by
  cases v with
  | integer m =>
    simp only [Json.nat32]
    split <;> simp_all <;> omega
  | _ => simp [Json.nat32]

theorem optional_nat32_eq_ok {v : Value} : (∃ change, Json.optional Json.nat32 v = .ok change) ↔
    v = .null ∨ ∃ n : Nat, n < 0x100000000 ∧ v = .integer n := by
  simp only [← nat32_eq_ok]
  cases v with
  | integer n => cases h : Json.nat32 (.integer n) <;> simp [Json.optional, h, Except.map]
  | _ => simp [Json.optional, Json.nat32, Except.map]

/-! ## Reading -/

theorem Applied.says_iff {a : Applied} {applied reason change : Value} :
    a.Says applied reason change ↔ Json.boolean applied = .ok a.applied ∧
      Json.optional Json.text reason = .ok a.reason ∧
      ∃ c, Json.optional Json.nat32 change = .ok c := by
  rw [boolean_eq_ok, optional_text_eq_ok, optional_nat32_eq_ok]
  exact ⟨fun h => ⟨h.applied, h.reason, h.change⟩, fun h => ⟨h.1, h.2.1, h.2.2⟩⟩

variable {ms read : List (String × Value)}

/-- An object is read if it has the three values, under their names. -/
theorem Applied.fromObject_fields_eq_ok : Json.fromObject fields .ignored ms = .ok read ↔
    read = Value.sortedMembers ms ∧
      (∃ b, Json.boolean (((Value.object ms).get? "applied").getD .null) = .ok b) ∧
      (∃ reason, Json.optional Json.text (((Value.object ms).get? "failureReason").getD .null) =
        .ok reason) ∧
      ∃ change, Json.optional Json.nat32 (((Value.object ms).get? "failedChange").getD .null) =
        .ok change := by
  rw [fromObject_eq_ok (by decide)]
  simp only [fields, List.forall_mem_cons, List.not_mem_nil, false_imp_iff, implies_true, and_true]
  rw [Field.of_passes_iff (by simp [Json.boolean]), Field.optional_passes_iff,
    Field.optional_passes_iff]
  rfl

/-- An array is read if it has the three values and no others. -/
theorem Applied.fromArray_fields_eq_ok {record : String} {count length : Nat} {vs : List Value} :
    Json.fromArray record count length 0 fields vs = .ok read ↔
      ∃ applied reason change, vs = [applied, reason, change] ∧
        read = [("applied", applied), ("failureReason", reason), ("failedChange", change)] ∧
        (∃ b, Json.boolean applied = .ok b) ∧ (∃ r, Json.optional Json.text reason = .ok r) ∧
        ∃ c, Json.optional Json.nat32 change = .ok c := by
  rw [fromArray_eq_ok (by simp [fields, Field.of, Field.optional])]
  simp only [fields, List.forall₂_cons_left_iff, List.forall₂_nil_left_iff]
  constructor
  · rintro ⟨⟨applied, _, happlied, ⟨reason, _, hreason, ⟨change, _, hchange, rfl, rfl⟩, rfl⟩, rfl⟩,
      rfl⟩
    exact ⟨applied, reason, change, rfl, rfl, checked_eq_ok.mp happlied, checked_eq_ok.mp hreason,
      checked_eq_ok.mp hchange⟩
  · rintro ⟨applied, reason, change, rfl, rfl, happlied, hreason, hchange⟩
    exact ⟨⟨applied, _, checked_eq_ok.mpr happlied, ⟨reason, _, checked_eq_ok.mpr hreason,
      ⟨change, _, checked_eq_ok.mpr hchange, rfl, rfl⟩, rfl⟩, rfl⟩, rfl⟩

/-- A reply is read as what it says, and one that says nothing is not read. -/
theorem Applied.read_iff {v : Value} {a : Applied} : Applied.read v = .ok a ↔ a.Told v := by
  simp only [Applied.read, bind_eq_ok]
  cases v with
  | object ms =>
    simp only [Json.members, fromObject_fields_eq_ok]
    constructor
    · rintro ⟨_, ⟨rfl, -, -, hchange⟩, applied, happlied, reason, hreason, hread⟩
      obtain rfl := Except.ok.inj hread
      rw [valueOf_sortedMembers] at happlied hreason
      exact .object (says_iff.mpr ⟨happlied, hreason, hchange⟩)
    · rintro (h | -)
      obtain ⟨happlied, hreason, hchange⟩ := says_iff.mp h
      refine ⟨_, ⟨rfl, ⟨_, happlied⟩, ⟨_, hreason⟩, hchange⟩, _, ?_, _, ?_, rfl⟩
      · rwa [valueOf_sortedMembers]
      · rwa [valueOf_sortedMembers]
  | array vs =>
    simp only [Json.members, fromArray_fields_eq_ok]
    constructor
    · rintro ⟨_, ⟨applied, reason, change, rfl, rfl, -, -, hchange⟩, _, happlied, _, hreason, hread⟩
      obtain rfl := Except.ok.inj hread
      exact .array (says_iff.mpr ⟨happlied, hreason, hchange⟩)
    · rintro (- | h)
      obtain ⟨happlied, hreason, hchange⟩ := says_iff.mp h
      exact ⟨_, ⟨_, _, _, rfl, rfl, ⟨_, happlied⟩, ⟨_, hreason⟩, hchange⟩,
        _, happlied, _, hreason, rfl⟩
  | _ =>
    refine ⟨by simp [Json.members], fun h => ?_⟩
    cases h

theorem Applied.Told.unique {v : Value} {a b : Applied} (ha : a.Told v) (hb : b.Told v) : a = b :=
  Except.ok.inj ((Applied.read_iff.mpr ha).symm.trans (Applied.read_iff.mpr hb))

/-! ## Answers -/

/-- A client says that it has applied an edit. -/
def Reply.Accepts (reply : Reply) : Prop :=
  ∃ v, ∃ a : Applied, reply = .result v ∧ a.Told v ∧ a.applied = true

/-- The answer to a command whose edit a client was asked to apply. -/
inductive Judged (edit : WorkspaceEdit) : Reply → Response → Prop where
  | applied {v : Value} {a : Applied} : a.Told v → a.applied = true →
      Judged edit (.result v) (.result (ofWorkspaceEdit edit))
  | rejected {v : Value} {a : Applied} : a.Told v → a.applied = false →
      Judged edit (.result v) (.error ⟨-32000,
        "Edit was not applied: " ++ a.reason.getD "client rejected the edit", none⟩)
  | illegible {v : Value} {e : Json.Mismatch} : (∀ a : Applied, ¬ a.Told v) →
      Applied.read v = .error e → Judged edit (.result v) (.error ⟨-32603,
        "Client request failed: " ++ ("Parse error: " ++ e.message), none⟩)
  | failed {code : Int} {message : String} :
      Judged edit (.error code message) (.error ⟨-32603,
        "Client request failed: " ++ (describeCode code ++ ": " ++ message), none⟩)

theorem judged_outcomeOf (edit : WorkspaceEdit) (reply : Reply) :
    Judged edit reply (match outcomeOf reply with
      | .ok () => .result (ofWorkspaceEdit edit)
      | .error e => .error (.ofRequest e)) := by
  cases reply with
  | error code message => exact .failed
  | result v =>
    cases hread : Applied.read v with
    | error e =>
      simp only [outcomeOf, hread]
      exact .illegible (fun a ha => nomatch hread.symm.trans (Applied.read_iff.mpr ha)) hread
    | ok a =>
      cases happlied : a.applied with
      | true =>
        simp only [outcomeOf, hread, happlied, if_true]
        exact .applied (Applied.read_iff.mp hread) happlied
      | false =>
        simp only [outcomeOf, hread, happlied, Bool.false_eq_true, if_false]
        exact .rejected (Applied.read_iff.mp hread) happlied

/-- Only an edit that was applied is answered with a value. -/
theorem Judged.result_iff {edit : WorkspaceEdit} {reply : Reply} {response : Response}
    (h : Judged edit reply response) :
    (∃ v, response = .result v ∧ v ≠ .null) ↔ reply.Accepts := by
  cases h with
  | @applied v a htold happlied =>
    exact ⟨fun _ => ⟨v, a, rfl, htold, happlied⟩, fun _ => ⟨_, rfl, nofun⟩⟩
  | rejected htold happlied =>
    refine ⟨nofun, ?_⟩
    rintro ⟨_, a, hv, ha, hyes⟩
    obtain rfl := Reply.result.inj hv
    obtain rfl := htold.unique ha
    rw [happlied] at hyes
    cases hyes
  | illegible hnone =>
    refine ⟨nofun, ?_⟩
    rintro ⟨_, a, hv, ha, -⟩
    obtain rfl := Reply.result.inj hv
    exact (hnone a ha).elim
  | failed => exact ⟨nofun, fun ⟨_, _, hv, _⟩ => nomatch hv⟩

/-- A reply allows for one answer only. -/
theorem Judged.unique {edit : WorkspaceEdit} {reply : Reply} {r r' : Response}
    (h : Judged edit reply r) (h' : Judged edit reply r') : r = r' := by
  cases h with
  | applied htold happlied =>
    cases h' with
    | applied => rfl
    | rejected htold' happlied' => simp [htold.unique htold', happlied'] at happlied
    | illegible hnone => exact (hnone _ htold).elim
  | rejected htold happlied =>
    cases h' with
    | applied htold' happlied' => simp [htold.unique htold', happlied'] at happlied
    | rejected htold' => rw [htold.unique htold']
    | illegible hnone => exact (hnone _ htold).elim
  | illegible hnone hread =>
    cases h' with
    | applied htold => exact (hnone _ htold).elim
    | rejected htold => exact (hnone _ htold).elim
    | illegible _ hread' => rw [Except.error.inj (hread.symm.trans hread')]
  | failed =>
    cases h'
    rfl

theorem Judged.result_eq {edit : WorkspaceEdit} {reply : Reply} {v : Value}
    (h : Judged edit reply (.result v)) : v = ofWorkspaceEdit edit := by
  cases h
  rfl

end Nameplate.Server
