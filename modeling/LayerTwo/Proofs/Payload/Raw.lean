import LayerTwo.Payload.Decode
import LayerTwo.Proofs.Json.Raw
import LayerTwo.Proofs.Operation

/-! Raw payloads. What a payload is decoded to depends on the value that its text writes and on
nothing else: neither the blanks and escapes of the text nor the bytes that carry it show. -/
namespace LayerTwo

open Json Text

variable {σ : Type}

theorem raw_of_read {subject : Payload.Subject} {payload value : Value}
    (read : readRaw payload = .ok value) :
    Payload.raw subject payload = (pure value : Operation σ Value) := by
  rw [Payload.raw, read]
  rfl

/-- The outcome for a text is the outcome for the value that it writes. -/
theorem ofRaw_text {value : Value} {text : List Char} (written : WritesPadded Exact value text)
    (readable : Readable value) (state : σ) :
    Block.ofRaw (.str (String.ofList text)) state = Block.ofWire value state ∧
      BlockRange.ofRaw (.str (String.ofList text)) state = BlockRange.ofWire value state := by
  have read : readRaw (.str (String.ofList text)) = .ok value := by
    rw [readRaw_text written]
    exact decode_of_writes written readable
  constructor
  · rw [Block.ofRaw, raw_of_read read, pure_bind]
  · rw [BlockRange.ofRaw, raw_of_read read, pure_bind]

/-- A face by the two halves of its pair, and an object inside the array. -/
theorem ofRaw_text_nested :
    Block.ofRaw (.str "[ \"\\uD83D\\uDE00\", \x7b\"a\":[]\x7d\n]") () =
        Block.ofWire (.list [.str "😀", .dict [("a", .list [])]]) () ∧
      BlockRange.ofRaw (.str "[ \"\\uD83D\\uDE00\", \x7b\"a\":[]\x7d\n]") () =
        BlockRange.ofWire (.list [.str "😀", .dict [("a", .list [])]]) () := by
  have none : Blank [] := List.forall_mem_nil _
  have space : Blank [' '] := by simp [Blank]
  have line : Blank ['\n'] := by simp [Blank]
  have pair : units '😀' = [0xD83D, 0xDE00] := rfl
  have face : WritesString Exact "😀" _ := .quoted (.cons
    (.pair pair (show SpellsUnit ['D', '8', '3', 'D'] _ from rfl)
      (show SpellsUnit ['D', 'E', '0', '0'] _ from rfl)) .nil)
  have key : WritesString Exact "a" _ :=
    .quoted (.cons (.plain (by decide) (by decide) (by decide)) .nil)
  have table : Writes Exact (.dict [("a", .list [])]) _ :=
    .object (.last none key none (.mk none (.emptyArray none) none))
  have items : WritesItems Exact [.str "😀", .dict [("a", .list [])]] _ :=
    .next (.mk space (.string face) none) (.last (.mk space table line))
  refine ofRaw_text (.mk none (.array items) none) (.list ?_) ()
  rw [List.forall_mem_cons, List.forall_mem_singleton]
  refine ⟨.str _, .dict (by decide) ?_⟩
  rw [List.forall_mem_singleton]
  exact .list (List.forall_mem_nil _)

/-- The outcome for bytes is the outcome for the text that they hold. -/
theorem ofRaw_bytes {text : List Char} (valid : IsText text) (encoding : Encoding) (marked : Bool)
    (state : σ) :
    Block.ofRaw (.bytes (bytesOf encoding marked text)) state =
        Block.ofRaw (.str (String.ofList text)) state ∧
      BlockRange.ofRaw (.bytes (bytesOf encoding marked text)) state =
        BlockRange.ofRaw (.str (String.ofList text)) state := by
  have same := readRaw_bytes valid encoding marked
  simp only [Block.ofRaw, BlockRange.ofRaw, Payload.raw, same, and_self]

/-- One letter beyond ASCII in UTF-16, where no mark tells the order of the bytes. -/
theorem ofRaw_bytes_letter :
    Block.ofRaw (.bytes [0x22, 0x00, 0xE9, 0x00, 0x22, 0x00]) () =
        Block.ofRaw (.str "\"é\"") () ∧
      BlockRange.ofRaw (.bytes [0x22, 0x00, 0xE9, 0x00, 0x22, 0x00]) () =
        BlockRange.ofRaw (.str "\"é\"") () := by
  have none : Blank [] := List.forall_mem_nil _
  have letter : WritesString Loose "é" (quotationMark :: (['é'] ++ [quotationMark])) :=
    .quoted (.plain (by decide) (by decide) (by decide) .nil)
  have valid : IsText _ := ⟨_, .mk none (.string letter) none⟩
  exact ofRaw_bytes valid (.utf16 false) false ()

end LayerTwo
