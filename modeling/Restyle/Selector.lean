import Restyle.Text.Alphabetic
import Restyle.Text.Uppercase

/-!
# Selectors

A nested definition sits under a key, and the key says which selector its declarations get. A marked
key qualifies the selector at hand, a key with an equals sign replaces it, a key with an at sign
names a keyframes block, and any other key selects a descendant. `Role.ofKey` reads a key, `qualify`
and `descendant` build selectors.
-/

namespace Restyle

/-- The mark at the start of a qualifying key. No property and no selector starts with a percent
sign, so the mark is never mistaken for either. -/
def whenMark : String := "%when:"

/-- The key that qualifies the selector at hand by `suffix`. -/
def whenKey (suffix : String) : String := whenMark ++ suffix

/-- The suffix of a qualifying key. -/
def whenSuffix? (key : String) : Option String :=
  (whenMark.toList.isPrefixOf? key.toList).map String.ofList

/-- The selector at hand with a suffix: a suffix that starts with a letter is a class, any other is
appended as it stands. -/
def qualify (selector suffix : String) : String :=
  match suffix.toList with
  | c :: _ => if Text.isAlphabetic c then selector ++ "." ++ suffix else selector ++ suffix
  | [] => selector ++ suffix

/-- The selector of a descendant: a key that starts with a capital names the class of a component,
any other is used as it stands. -/
def descendant (parent key : String) : String :=
  match key.toList with
  | c :: _ => if Text.isUppercase c then parent ++ " ." ++ key else parent ++ " " ++ key
  | [] => parent ++ " " ++ key

/-- What the key of a nested definition says about the selector below it. -/
inductive Role where
  /-- The selector at hand is qualified by the suffix. -/
  | qualifier (suffix : String)
  /-- The definition is the timeline of a keyframes block. -/
  | keyframes
  /-- The selector is replaced. -/
  | absolute (selector : String)
  /-- The selector is that of a descendant. -/
  | descendant
deriving DecidableEq, Repr

/-- The role of a key. The mark of a qualifying key is looked for first. -/
def Role.ofKey (key : String) : Role :=
  match whenSuffix? key with
  | some suffix => .qualifier suffix
  | none =>
    match key.toList with
    | '@' :: _ => .keyframes
    | '=' :: selector => .absolute (String.ofList selector)
    | _ => .descendant

/-- A key built with `whenKey` gives its suffix back. -/
@[simp] theorem whenSuffix?_whenKey (suffix : String) :
    whenSuffix? (whenKey suffix) = some suffix := by
  have h : whenMark.toList = ['%', 'w', 'h', 'e', 'n', ':'] := rfl
  have hrest : (whenMark.toList.isPrefixOf? (whenKey suffix).toList) = some suffix.toList := by
    rw [whenKey, String.toList_append, h]
    rfl
  rw [whenSuffix?, hrest, Option.map_some, String.ofList_toList]

end Restyle
