import RouteChain.Response.Delivery
import RouteChain.Response.Recorder

/-!
# Faithful writers

A faithful writer records every call on it. What has been written to it so far is a response, which
a change changes and nothing else does, and what it sends when it is ended is that response.

## Main definitions

* `Headers.values` — the values of a header name, in order.
* `FaithfulWriter` — writers that record every call.

Recorders and deliveries are faithful.
-/

namespace RouteChain

/-! ## Values of header fields -/

namespace Headers

def values (headers : Headers) (name : String) : List Bytes :=
  (headers.fields.filter (fun field => field.1 = fieldName name)).map Prod.snd

theorem contains_iff (headers : Headers) (name : String) :
    headers.contains name = true ↔ headers.values name ≠ [] := by
  simp [contains, values]

/-- Fields that are looked for by another name do not see a new one. -/
theorem filter_insertField_of_ne {name other : String} (h : name ≠ other) (value : Bytes)
    (fields : List (String × Bytes)) :
    (insertField name value fields).filter (fun field => field.1 = other) =
      fields.filter (fun field => field.1 = other) := by
  induction fields with
  | nil => simp [insertField, h]
  | cons field fields ih =>
    obtain ⟨n, v⟩ := field
    unfold insertField
    split
    · simp [h]
    · rw [List.filter_cons, List.filter_cons, ih]

/-- A new field is the only one of its name if there was none before. -/
theorem filter_insertField_self {name : String} (value : Bytes) {fields : List (String × Bytes)}
    (h : ∀ field ∈ fields, field.1 ≠ name) :
    (insertField name value fields).filter (fun field => field.1 = name) = [(name, value)] := by
  have hnone : ∀ rest : List (String × Bytes), (∀ field ∈ rest, field.1 ≠ name) →
      rest.filter (fun field => field.1 = name) = [] := by
    intro rest hrest
    simpa using fun first value mem => hrest (first, value) mem
  induction fields with
  | nil => simp [insertField]
  | cons field fields ih =>
    obtain ⟨n, v⟩ := field
    unfold insertField
    split
    · rw [List.filter_cons, hnone _ h]
      simp
    · have hn : n ≠ name := h (n, v) List.mem_cons_self
      rw [List.filter_cons, ih fun field mem => h field (List.mem_cons_of_mem _ mem)]
      simp [hn]

/-- A name that is set has that value and no other. -/
theorem values_set_self (headers : Headers) (name : String) (value : Bytes) :
    (headers.set name value).values name = [value] := by
  have h : ∀ field ∈ (headers.remove name).fields, field.1 ≠ fieldName name := by
    simp [remove]
  simp only [set, add, values]
  rw [filter_insertField_self value h]
  simp

/-- Setting a name leaves the values of the others as they are. -/
theorem values_set_of_ne (headers : Headers) {name other : String} (value : Bytes)
    (h : fieldName other ≠ fieldName name) :
    (headers.set name value).values other = headers.values other := by
  simp only [set, add, values]
  rw [filter_insertField_of_ne (Ne.symm h), remove, List.filter_filter]
  congr 1
  refine List.filter_congr fun field _ => ?_
  by_cases hfield : field.1 = fieldName other <;> simp [hfield, h]

end Headers

/-! ## Writers -/

/-- A writer that records every call. It can be told what has been written to it so far, and what it
sent when it was ended. -/
class FaithfulWriter (σ : Type) extends ResponseWriter σ where
  written : σ → Response
  sent? : σ → Option Response
  /-- A change changes what has been written. -/
  written_edit : ∀ (writer : σ) (change : Edit),
    written (edit writer change) = (written writer).edit change
  /-- A change does not end the response. -/
  isEnded_edit : ∀ (writer : σ) (change : Edit), isEnded (edit writer change) = isEnded writer
  /-- A response that was ended stays ended. -/
  isEnded_finish : ∀ writer : σ, isEnded (finish writer).2 = true
  /-- What is sent is what has been written, with its length. -/
  sent?_finish : ∀ writer : σ, isEnded writer = false → (finish writer).1 = none →
    sent? (finish writer).2 = some (written writer).withLength

namespace FaithfulWriter

variable {σ : Type} [FaithfulWriter σ]

theorem written_foldl_edit (writer : σ) (changes : List Edit) :
    written (changes.foldl ResponseWriter.edit writer) =
      changes.foldl Response.edit (written writer) := by
  induction changes generalizing writer with
  | nil => rfl
  | cons change changes ih => rw [List.foldl_cons, ih, written_edit, List.foldl_cons]

theorem isEnded_foldl_edit (writer : σ) (changes : List Edit) :
    ResponseWriter.isEnded (changes.foldl ResponseWriter.edit writer) =
      ResponseWriter.isEnded writer := by
  induction changes generalizing writer with
  | nil => rfl
  | cons change changes ih => rw [List.foldl_cons, ih, isEnded_edit]

end FaithfulWriter

instance : FaithfulWriter Recorder where
  written := Recorder.response
  sent? recorder := if recorder.ended then some recorder.response else none
  written_edit _ _ := rfl
  isEnded_edit _ _ := rfl
  isEnded_finish := Recorder.ended_finish
  sent?_finish recorder unended _ := by
    have hopen : recorder.ended = false := unended
    simp [ResponseWriter.finish, Recorder.finish, hopen]

instance : FaithfulWriter Delivery where
  written := Delivery.response
  sent? delivery :=
    match delivery.mailbox with
    | .full response => some response
    | _ => none
  written_edit _ _ := rfl
  isEnded_edit _ _ := rfl
  isEnded_finish := Delivery.ended_finish
  sent?_finish delivery unended success := by
    have hopen : delivery.ended = false := unended
    cases hmail : delivery.mailbox <;>
      simp_all [ResponseWriter.finish, Delivery.finish]

/-! ## What has been sent -/

theorem Recorder.sent?_eq_some {recorder : Recorder} {response : Response} :
    FaithfulWriter.sent? recorder = some response ↔
      recorder.ended = true ∧ recorder.response = response :=
  Option.ite_none_right_eq_some.trans (and_congr_right fun _ => Option.some_inj)

theorem Delivery.sent?_eq_some {delivery : Delivery} {response : Response} :
    FaithfulWriter.sent? delivery = some response ↔ delivery.mailbox = .full response := by
  cases hmailbox : delivery.mailbox <;> simp [FaithfulWriter.sent?, hmailbox]

end RouteChain
