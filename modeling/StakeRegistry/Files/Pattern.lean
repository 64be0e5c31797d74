/-
Patterns of file names and of paths.

In the pattern of a name `*` stands for any characters, `?` for one character and a set between
brackets for one of its characters. A set lists characters and ranges, a range being two characters
with a hyphen between them; after a `!` it stands for one of the other characters. A closing bracket
counts as a member where it comes first, and an opening one without a closing one stands for itself.

A pattern of a path is a sequence of such patterns. The part `..` goes to the directory above, and
the part `**` stands for any number of directories.
-/
import StakeRegistry.Path

namespace StakeRegistry

/-- What a set of characters lists. -/
inductive SetItem where
  | one (c : Char)
  | range (first last : Char)
  deriving Repr, DecidableEq

namespace SetItem

/-- Is a character listed by an item? -/
def has (x : Char) : SetItem → Bool
  | one c => c = x
  | range first last => first ≤ x && x ≤ last

/-- Is an item more than a range in falling order? -/
def isKept : SetItem → Bool
  | one _ => true
  | range first last => first ≤ last

/-- The items that characters between brackets list. A hyphen that is the first or the last of them
or comes directly after a range stands for itself. -/
def ofChars : List Char → List SetItem
  | first :: '-' :: last :: r => range first last :: ofChars r
  | c :: r => one c :: ofChars r
  | [] => []

end SetItem

/-- A set of characters. -/
structure CharSet where
  negated : Bool
  items : List SetItem
  deriving Repr, DecidableEq

namespace CharSet

/-- Is a character in a set? -/
def has (s : CharSet) (c : Char) : Bool :=
  s.negated != s.items.any (·.has c)

/-- The set of all characters. -/
def all : CharSet where
  negated := true
  items := []

/-- The set of one character. -/
def just (c : Char) : CharSet where
  negated := false
  items := [.one c]

@[simp] theorem has_just (c x : Char) : (just c).has x = true ↔ c = x := by
  simp [has, just, SetItem.has]

/-- The set between two brackets. Ranges in falling order are left out before the first character is
looked at. -/
def ofChars (cs : List Char) : CharSet :=
  let items : List SetItem := match cs with
    | '!' :: r => .one '!' :: SetItem.ofChars r
    | cs => SetItem.ofChars cs
  match items.filter SetItem.isKept with
  | .one '!' :: r => { negated := true, items := r }
  | .range '!' last :: r => { negated := true, items := .one '-' :: .one last :: r }
  | items => { negated := false, items }

/-- The characters up to the closing bracket, and the rest behind it. -/
def split? (cs : List Char) : Option (List Char × List Char) :=
  let (first, r) := match cs with
    | '!' :: ']' :: r => (['!', ']'], r)
    | '!' :: r => (['!'], r)
    | ']' :: r => ([']'], r)
    | r => ([], r)
  match r.dropWhile (· ≠ ']') with
  | [] => none
  | _ :: rest => some (first ++ r.takeWhile (· ≠ ']'), rest)

end CharSet

/-- A piece of the pattern of a name. -/
inductive NamePiece where
  /-- Any characters. -/
  | many
  /-- One character of a set. -/
  | one (s : CharSet)
  deriving Repr, DecidableEq

/-- The pattern of a name. -/
abbrev NamePattern : Type := List NamePiece

namespace NamePattern

/-- The pieces of a pattern, at most `fuel` of them. -/
def ofChars : (fuel : Nat) → List Char → NamePattern
  | 0, _ => []
  | _ + 1, [] => []
  | fuel + 1, '*' :: r => .many :: ofChars fuel r
  | fuel + 1, '?' :: r => .one .all :: ofChars fuel r
  | fuel + 1, '[' :: r =>
    match CharSet.split? r with
    | some (set, rest) => .one (.ofChars set) :: ofChars fuel rest
    | none => .one (.just '[') :: ofChars fuel r
  | fuel + 1, c :: r => .one (.just c) :: ofChars fuel r

/-- Read the pattern of a name. Each piece takes up at least one character. -/
def ofText (s : String) : NamePattern :=
  ofChars s.length s.toList

/-- For every place of a list: is there `true` at it or behind it? -/
def fromHere (bs : List Bool) : List Bool :=
  bs.foldr (fun b later => (b || later.head?.getD false) :: later) []

/-- For the characters and for every rest of them, the empty one included: does it fit a pattern? -/
def fitsEach : NamePattern → List Char → List Bool
  | [], cs => cs.map (fun _ => false) ++ [true]
  | .many :: ps, cs => fromHere (fitsEach ps cs)
  | .one s :: ps, cs => cs.zipWith (fun c rest => s.has c && rest) (fitsEach ps cs).tail ++ [false]

/-- Do characters fit a pattern? -/
def fits (ps : NamePattern) (cs : List Char) : Bool :=
  (fitsEach ps cs).head?.getD false

theorem fitsEach_nil (ps : NamePattern) : fitsEach ps [] = [fits ps []] := by
  rw [fits]
  induction ps with
  | nil => rfl
  | cons p ps ih => cases p <;> rw [fitsEach, ih] <;> rfl

theorem fitsEach_cons (ps : NamePattern) (c : Char) (cs : List Char) :
    fitsEach ps (c :: cs) = fits ps (c :: cs) :: fitsEach ps cs := by
  rw [fits]
  induction ps generalizing c cs with
  | nil => rfl
  | cons p ps ih =>
    cases p with
    | many => rw [fitsEach, ih]; rfl
    | one s =>
      rw [fitsEach, fitsEach, ih]
      cases cs with
      | nil => rw [fitsEach_nil]; rfl
      | cons d cs => rw [ih d cs]; rfl

@[simp] theorem fits_nil (cs : List Char) : fits [] cs = cs.isEmpty := by
  cases cs <;> rfl

@[simp] theorem fits_many_nil (ps : NamePattern) : fits (.many :: ps) [] = fits ps [] := by
  rw [fits, fitsEach, fitsEach_nil]
  simp [fromHere]

/-- `many` stands for no characters, or for one more. -/
@[simp] theorem fits_many_cons (ps : NamePattern) (c : Char) (cs : List Char) :
    fits (.many :: ps) (c :: cs) = (fits ps (c :: cs) || fits (.many :: ps) cs) := by
  rw [fits, fits, fits, fitsEach, fitsEach, fitsEach_cons]
  rfl

@[simp] theorem fits_one_nil (s : CharSet) (ps : NamePattern) : fits (.one s :: ps) [] = false :=
  rfl

@[simp] theorem fits_one_cons (s : CharSet) (ps : NamePattern) (c : Char) (cs : List Char) :
    fits (.one s :: ps) (c :: cs) = (s.has c && fits ps cs) := by
  rw [fits, fits, fitsEach, fitsEach_cons]
  cases cs with
  | nil => rw [fitsEach_nil]; rfl
  | cons d cs => rw [fitsEach_cons]; rfl

/-- A pattern of single characters is fitted by these alone. -/
theorem fits_map_just (ds cs : List Char) :
    fits (ds.map fun d => .one (.just d)) cs = true ↔ cs = ds := by
  induction ds generalizing cs with
  | nil => cases cs <;> simp
  | cons d ds ih =>
    cases cs with
    | nil => simp
    | cons c cs =>
      rw [List.map_cons, fits_one_cons, Bool.and_eq_true, CharSet.has_just, ih, List.cons.injEq]
      exact and_congr_left' eq_comm

end NamePattern

/-- A part of the pattern of a path. -/
inductive PathStep where
  /-- The directory above. -/
  | above
  /-- Any number of directories. -/
  | anyDepth
  /-- Something in a directory, by its name. -/
  | name (pattern : NamePattern)
  deriving Repr, DecidableEq

/-- Why a text is no pattern of a path. -/
inductive PatternError where
  /-- The pattern begins at the root. -/
  | notRelative
  /-- A part holds `**` together with something else. -/
  | mixedDepth
  deriving Repr, DecidableEq

/-- Do characters hold two stars in a row? -/
def hasTwoStars : List Char → Bool
  | '*' :: '*' :: _ => true
  | _ :: r => hasTwoStars r
  | [] => false

/-- The step for one part of a pattern. -/
def PathStep.ofPart (part : String) : Except PatternError PathStep :=
  if part = ".." then .ok .above
  else if part = "**" then .ok .anyDepth
  else if hasTwoStars part.toList then .error .mixedDepth
  else .ok (.name (.ofText part))

/-- Read the pattern of a path. -/
def readPathPattern (s : String) : Except PatternError (List PathStep) :=
  let p := Path.ofText s
  if p.slashes = 0 then p.parts.mapM PathStep.ofPart else .error .notRelative

end StakeRegistry
