import LittleRed.Lib.LineTools

/-!
# What a fingerprint is taken of

An operation is acknowledged by a keyed digest of its name and the value that was carried out. The
digest is taken of one text, in which both stand behind their lengths in bytes.
-/

namespace LittleRed.Operation

open Lib

def lengthPrefixed (s : String) : String := toString s.utf8ByteSize ++ ":" ++ s

/-- The text that the digest of an operation is taken of. -/
def framed (name value : String) : String := lengthPrefixed name ++ lengthPrefixed value

variable {s s' rest rest' : String}

/-- The length ends at the first colon, and says where the text ends. -/
theorem lengthPrefixed_append_inj (h : lengthPrefixed s ++ rest = lengthPrefixed s' ++ rest') :
    s = s' ∧ rest = rest' := by
  have hcolon (n : ℕ) : ':' ∉ (toString n).toList := notMem_toString (by decide) n
  have hchars : (toString s.utf8ByteSize).toList ++ ':' :: (s ++ rest).toList =
      (toString s'.utf8ByteSize).toList ++ ':' :: (s' ++ rest').toList := by
    simpa [lengthPrefixed] using congrArg String.toList h
  have hsize : s.utf8ByteSize = s'.utf8ByteSize := by
    have hlength := congrArg (cutFirst ':') hchars
    rw [cutFirst_append (hcolon _), cutFirst_append (hcolon _)] at hlength
    exact toString_injective (String.toList_inj.mp hlength)
  have htail : s ++ rest = s' ++ rest' := by
    rw [hsize, List.append_cancel_left_eq, List.cons.injEq] at hchars
    exact String.toList_inj.mp hchars.2
  have hbytes := congrArg String.toByteArray htail
  rw [String.toByteArray_append, String.toByteArray_append] at hbytes
  obtain rfl : s = s' := String.toByteArray_inj.mp (ByteArray.append_inj_left hbytes hsize)
  exact ⟨rfl, String.toByteArray_inj.mp (ByteArray.append_right_inj _ |>.mp hbytes)⟩

/-- No operation and value share the text with another operation or value. -/
theorem framed_eq_framed_iff {name name' value value' : String} :
    framed name value = framed name' value' ↔ name = name' ∧ value = value' := by
  constructor
  · intro h
    obtain ⟨rfl, hvalue⟩ := lengthPrefixed_append_inj h
    have hempty : lengthPrefixed value ++ "" = lengthPrefixed value' ++ "" := by rw [hvalue]
    exact ⟨rfl, (lengthPrefixed_append_inj hempty).1⟩
  · rintro ⟨rfl, rfl⟩
    rfl

end LittleRed.Operation
