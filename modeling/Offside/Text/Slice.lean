/-!
# Slices by byte offset

Offsets count bytes of UTF-8. A slice exists only where both ends fall between characters and stand
in order. Main statement:

* `slice?_eq_some_iff` — the slice is the middle of a cut of the text at the two offsets.
-/

namespace Offside
namespace Text

/-- The text from byte `start` up to byte `stop`. -/
def slice? (source : String) (start stop : Nat) : Option String :=
  if ends : String.Pos.Raw.IsValid source ⟨start⟩ ∧ String.Pos.Raw.IsValid source ⟨stop⟩ then
    if start ≤ stop then some (source.extract ⟨⟨start⟩, ends.1⟩ ⟨⟨stop⟩, ends.2⟩) else none
  else
    none

theorem slice?_append (front text back : String) :
    slice? (front ++ text ++ back) front.utf8ByteSize (front.utf8ByteSize + text.utf8ByteSize) =
      some text := by
  have first : String.Pos.Raw.IsValid (front ++ text ++ back) ⟨front.utf8ByteSize⟩ :=
    String.Pos.Raw.isValid_iff_exists_append.2
      ⟨front, text ++ back, by rw [String.append_assoc], rfl⟩
  have last : String.Pos.Raw.IsValid (front ++ text ++ back)
      ⟨front.utf8ByteSize + text.utf8ByteSize⟩ :=
    String.Pos.Raw.isValid_iff_exists_append.2
      ⟨front ++ text, back, rfl, by simp [String.Pos.Raw.ext_iff]⟩
  have content : (front ++ text ++ back).extract ⟨_, first⟩ ⟨_, last⟩ = text := by
    apply String.toByteArray_inj.1
    simp only [String.toByteArray_extract, String.toByteArray_append]
    rw [ByteArray.extract_append, ByteArray.extract_append_eq_right] <;>
      simp [← String.size_toByteArray]
  simp [slice?, first, last, content]

theorem slice?_eq_some_iff {source text : String} {start stop : Nat} :
    slice? source start stop = some text ↔
      ∃ front back : String, source = front ++ text ++ back ∧
        start = front.utf8ByteSize ∧ stop = front.utf8ByteSize + text.utf8ByteSize := by
  constructor
  · intro h
    unfold slice? at h
    split at h
    next ends =>
      split at h
      next ordered =>
        cases h
        -- The three parts are cut out of the same bytes.
        have startBound : start ≤ source.utf8ByteSize := by
          simpa [String.Pos.Raw.le_iff] using ends.1.le_rawEndPos
        have stopBound : stop ≤ source.utf8ByteSize := by
          simpa [String.Pos.Raw.le_iff] using ends.2.le_rawEndPos
        refine ⟨source.extract source.startPos ⟨⟨start⟩, ends.1⟩,
          source.extract ⟨⟨stop⟩, ends.2⟩ source.endPos, ?_, ?_, ?_⟩
        · apply String.toByteArray_inj.1
          simp [Nat.max_eq_right ordered, ← String.size_toByteArray]
        · simp [← String.size_toByteArray, Nat.min_eq_left (String.size_toByteArray ▸ startBound)]
        · simp [← String.size_toByteArray, Nat.min_eq_left (String.size_toByteArray ▸ startBound),
            Nat.min_eq_left (String.size_toByteArray ▸ stopBound)]
          omega
      next => cases h
    next => cases h
  · rintro ⟨front, back, rfl, rfl, rfl⟩
    exact slice?_append front text back

end Text
end Offside
