import LayerTwo.Payload.Decode
import LayerTwo.Proofs.Hex.Refusal
import LayerTwo.Proofs.Operation
import LayerTwo.Proofs.Payload.Rows
import LayerTwo.Proofs.Value.Equality
import LayerTwo.Proofs.Value.Shown

/-! Which errors about a payload can be shown. An error shows no more than a value of the payload, so
a payload is refused without a message only if it holds an integer with too many digits. -/
namespace LayerTwo

namespace Hex

variable {value : Value} {size : Option Int} {fault : Fault}

/-- A quantity is refused with a text or the name of a type. -/
theorem isSome_message?_of_readQuantity (failed : readQuantity value = .error fault)
    (field : Option String) : (fault.message? field).isSome = true := by
  cases refused_of_readQuantity failed with
  | notText => rfl
  | notQuantity => rfl
  | oversized => rfl

theorem isSome_message?_notData_iff {field : Option String} :
    ((Fault.notData value).message? field).isSome = true ↔ value.Short := by
  rw [Fault.message?.eq_def, Value.isSome_return, Value.isSome_literal?_iff]

theorem isSome_message?_of_readData (failed : readData size value = .error fault)
    (short : value.Short) (sized : ∀ expected ∈ size, Decimal.Short expected)
    (field : Option String) : (fault.message? field).isSome = true := by
  cases refused_of_readData failed with
  | notData => exact isSome_message?_notData_iff.mpr short
  | oddLength => rfl
  | wrongSize =>
    rw [Fault.message?, Value.isSome_return, Decimal.isSome_text?_iff]
    exact sized _ rfl

end Hex

namespace Operation

variable {σ α : Type}

/-- What is parsed is handed on, an error as the failure that is raised for it. -/
theorem answers_parsed (area : Area) (result : Except ParseError α) :
    Answers (parsed area result : Operation σ α)
      (result.mapError fun error => raised (.parse error)) := by
  cases result with
  | ok a => exact answers_pure a
  | error error => exact answers_logged area (.parse error)

end Operation

namespace Payload

/-- Whatever field it is about, an error with the fault can be shown. -/
def Fault.Shown (fault : Fault) : Prop :=
  ∀ field, (ParseError.message? ⟨fault, field⟩).isSome = true

end Payload

namespace Block

open Payload (Fault)

variable {raw : Value} {fault : Fault} {error : ParseError} {payload : Entries}

theorem shown_of_readHash (refused : readHash raw = .error fault) (short : raw.Short) :
    fault.Shown := by
  unfold readHash at refused
  split at refused
  · contradiction
  · rename_i cause failed
    cases refused
    intro field
    refine Hex.isSome_message?_of_readData failed short ?_ field
    rintro _ ⟨⟩
    decide

theorem shown_of_readTransaction (refused : readTransaction raw = .error fault)
    (short : raw.Short) : fault.Shown := by
  unfold readTransaction at refused
  split at refused
  · contradiction
  · exact shown_of_readHash refused short

/-- An array is refused for one of its items, or with the name of a type. -/
theorem shown_of_readArray {read : Value → Except Fault Value}
    (each : ∀ item, read item = .error fault → item.Short → fault.Shown)
    (refused : readArray read raw = .error fault) (short : raw.Short) : fault.Shown := by
  cases raw with
  | list items =>
    obtain ⟨good, bad, rest, rfl, _, failed⟩ :=
      Result.mapM_eq_error (Result.map_eq_error_iff.mp refused)
    exact each bad failed (Value.short_list_iff.mp short bad (by simp))
  | _ =>
    cases refused
    intro field
    rfl

/-- The sizes that a codec asks for can be shown. -/
def Codec.Sized : Codec → Prop
  | .data size => ∀ expected ∈ size, Decimal.Short expected
  | _ => True

theorem sized_of_mem : ∀ row ∈ rows, row.codec.Sized := by
  have sizes : Decimal.Short 32 ∧ Decimal.Short 256 ∧ Decimal.Short 8 := by decide
  simp [rows, Codec.Sized, hashCodec, bloomCodec, nonceCodec, sizes]

theorem Codec.shown_of_read {codec : Codec} (sized : codec.Sized)
    (refused : codec.read raw = .error fault) (short : raw.Short) : fault.Shown := by
  cases codec with
  | data size =>
    obtain ⟨cause, failed, rfl⟩ :=
      Result.mapError_eq_error_iff.mp (Result.map_eq_error_iff.mp refused)
    exact Hex.isSome_message?_of_readData failed short sized
  | quantity =>
    rcases Result.bind_eq_error_iff.mp (Result.map_eq_error_iff.mp refused) with unread | ⟨_, _, _⟩
    · obtain ⟨cause, failed, rfl⟩ := Result.mapError_eq_error_iff.mp unread
      exact Hex.isSome_message?_of_readQuantity failed
    · contradiction
  | address =>
    obtain ⟨_, _, rfl⟩ := Result.mapError_eq_error_iff.mp (Result.map_eq_error_iff.mp refused)
    intro field
    rw [ParseError.message?, Value.isSome_return, Value.isSome_literal?_iff]
    exact short
  | hashes => exact shown_of_readArray (fun _ => shown_of_readHash) refused short
  | anything => exact shown_of_readArray (fun _ => by rintro ⟨⟩) refused short
  | transactions => exact shown_of_readArray (fun _ => shown_of_readTransaction) refused short

theorem short_of_given? {key : String} (short : (Value.dict payload).Short)
    (given : given? payload key = some raw) : raw.Short := by
  unfold given? at given
  split at given
  · contradiction
  · contradiction
  · rename_i _ found
    cases given
    exact Value.short_dict_iff.mp short _ (Value.mem_of_lookup_eq_some found)

theorem Row.shown_of_read {row : Row} (sized : row.codec.Sized)
    (short : (Value.dict payload).Short) (refused : row.read payload = .error error) :
    error.message?.isSome = true := by
  rw [read_eq] at refused
  split at refused
  · rename_i raw given
    split at refused
    · contradiction
    · rename_i fault failed
      cases refused
      exact Codec.shown_of_read sized failed (short_of_given? short given) _
  · split at refused
    · cases refused
      rfl
    · contradiction

theorem shown_of_readRows {rows : List Row} (sized : ∀ row ∈ rows, row.codec.Sized)
    (short : (Value.dict payload).Short) (refused : readRows payload rows = .error error) :
    error.message?.isSome = true := by
  induction rows with
  | nil => contradiction
  | cons row rest ih =>
    obtain ⟨first, others⟩ := List.forall_mem_cons.mp sized
    rcases Result.bind_eq_error_iff.mp refused with failed | ⟨_, _, later⟩
    · exact row.shown_of_read first short failed
    · rcases Result.bind_eq_error_iff.mp later with failed | ⟨_, _, done⟩
      · exact ih others failed
      · contradiction

theorem shown_of_inputsOfWire (refused : inputsOfWire raw = .error error) (short : raw.Short) :
    error.message?.isSome = true := by
  cases raw with
  | dict payload => exact shown_of_readRows sized_of_mem short refused
  | _ =>
    cases refused
    rfl

end Block

namespace BlockRange

variable {value : Value} {error : ParseError}

theorem shown_of_ofHex {field : Option String}
    (refused : ParseError.ofHex field (Hex.readQuantity value) = .error error) :
    error.message?.isSome = true := by
  obtain ⟨fault, failed, rfl⟩ := Result.mapError_eq_error_iff.mp refused
  exact Hex.isSome_message?_of_readQuantity failed field

/-- A range is refused with the name of a type, the length of an array or a text. -/
theorem shown_of_inputsOfWire (refused : inputsOfWire value = .error error) :
    error.message?.isSome = true := by
  rcases Result.bind_eq_error_iff.mp refused with unpaired | ⟨_, _, unread⟩
  · unfold pair at unpaired
    split at unpaired <;> cases unpaired <;> rfl
  rcases Result.bind_eq_error_iff.mp unread with failed | ⟨_, _, unreadLast⟩
  · exact shown_of_ofHex failed
  rcases Result.bind_eq_error_iff.mp unreadLast with failed | ⟨_, _, done⟩
  · exact shown_of_ofHex failed
  · contradiction

end BlockRange

end LayerTwo
