/-!
# Property names

Style definitions spell properties in camel case, style sheets in dash case. Most names have no
capital; they are told apart by their bytes and left as they are. All others are converted character
by character. The main statements: what the bytes tell is what the characters tell, so that either
way a name is converted character by character, and conversion distributes over concatenation.
-/

namespace Restyle

/-- The dash-case spelling of one character: a capital becomes a dash and its small letter. -/
def dashChar (c : Char) : List Char := if c.isUpper then ['-', c.toLower] else [c]

/-- A name converted to dash case character by character. Only the seven-bit capitals change. -/
def dashEachChar (property : String) : String := String.ofList (property.toList.flatMap dashChar)

/-- Whether a byte is the encoding of a seven-bit capital. -/
def isCapitalByte (byte : UInt8) : Bool := 'A'.toUInt8 ≤ byte && byte ≤ 'Z'.toUInt8

/-- Whether there is a seven-bit capital among the bytes of a name. -/
def hasCapitalByte (property : String) : Bool := property.toUTF8.data.toList.any isCapitalByte

/-- The dash-case spelling of a property: a name without capitals is left as it is. -/
def dashCase (property : String) : String :=
  if hasCapitalByte property then dashEachChar property else property

/-! ### The bytes of a name -/

/-- Only a capital has the byte of a capital in its encoding: beyond the seven-bit characters all
bytes have their highest bit set. -/
theorem any_isCapitalByte_utf8EncodeChar (c : Char) :
    (String.utf8EncodeChar c).any isCapitalByte = c.isUpper := by
  have hupper : c.isUpper = true ↔ 65 ≤ c.val.toNat ∧ c.val.toNat ≤ 90 :=
    decide_eq_true_iff.trans (and_congr UInt32.le_iff_toNat_le UInt32.le_iff_toNat_le)
  have hbyte : ∀ n : Nat, isCapitalByte (UInt8.ofNat n) = true ↔ 65 ≤ n % 256 ∧ n % 256 ≤ 90 := by
    simp [isCapitalByte, UInt8.le_iff_toNat_le, Char.toUInt8]
  rw [Bool.eq_iff_iff, hupper, String.utf8EncodeChar]
  -- one to four bytes: a single one is the character itself, of several each is at least 128
  repeat' split
  all_goals
    simp only [List.any_cons, List.any_nil, Bool.or_false, Bool.or_eq_true, hbyte]
    omega

/-- A name has the byte of a capital if and only if it has a capital. -/
theorem hasCapitalByte_eq_any (property : String) :
    hasCapitalByte property = property.toList.any Char.isUpper := by
  have hbytes : property.toUTF8.data.toList = property.toList.flatMap String.utf8EncodeChar := by
    rw [String.toUTF8, ← String.utf8Encode_toList, List.utf8Encode, List.toList_data_toByteArray]
  rw [hasCapitalByte, hbytes, List.any_flatMap]
  exact congrArg (List.any property.toList) (funext any_isCapitalByte_utf8EncodeChar)

/-- Conversion character by character changes nothing where there is no capital. -/
theorem dashEachChar_of_no_capital {p : String} (h : ∀ c ∈ p.toList, c.isUpper = false) :
    dashEachChar p = p := by
  rw [← String.toList_inj, dashEachChar, String.toList_ofList]
  generalize p.toList = cs at h
  induction cs with
  | nil => rfl
  | cons c cs ih =>
    have hc : dashChar c = [c] := by simp [dashChar, h c]
    rw [List.flatMap_cons, hc, ih fun d hd => h d (by simp [hd])]
    rfl

/-- Every name is converted character by character, those that are left as they are included. -/
theorem dashCase_eq_dashEachChar (property : String) :
    dashCase property = dashEachChar property := by
  unfold dashCase
  split
  · rfl
  · rename_i hbyte
    have hnone : ∀ c ∈ property.toList, c.isUpper = false := by
      simpa [hasCapitalByte_eq_any] using hbyte
    exact (dashEachChar_of_no_capital hnone).symm

@[simp] theorem toList_dashCase (property : String) :
    (dashCase property).toList = property.toList.flatMap dashChar := by
  rw [dashCase_eq_dashEachChar, dashEachChar, String.toList_ofList]

/-- Conversion distributes over concatenation. -/
theorem dashCase_append (p q : String) : dashCase (p ++ q) = dashCase p ++ dashCase q := by
  simp [← String.toList_inj]

/-- A name without seven-bit capitals is its own dash-case spelling. -/
theorem dashCase_of_no_capital {p : String} (h : ∀ c ∈ p.toList, c.isUpper = false) :
    dashCase p = p := by
  rw [dashCase_eq_dashEachChar, dashEachChar_of_no_capital h]

end Restyle
