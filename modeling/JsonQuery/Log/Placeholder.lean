import JsonQuery.Number.Reading

/-!
Message templates. A percent sign opens a placeholder, which says whose turn it is among
the arguments and how that argument is written: an optional name, flags, a least width, a
precision and a conversion. Two percent signs stand for one.
-/

namespace JsonQuery

/-- A width or a precision: a number in the template, or the next argument. -/
inductive Extent where
  | count (n : Nat)
  | argument
  deriving DecidableEq, Repr

/-- What an argument is written as. -/
inductive Conversion where
  /-- As inside a message. -/
  | display
  /-- By its description. -/
  | description
  /-- By its description, in ASCII. -/
  | asciiDescription
  | character
  | integer
  | octal
  | hexadecimal (upper : Bool)
  | exponent (upper : Bool)
  | fixed (upper : Bool)
  | general (upper : Bool)
  deriving DecidableEq, Repr

/-- The conversion a letter stands for. -/
def Conversion.ofChar? (c : Char) : Option Conversion :=
  match c with
  | 's' => some .display
  | 'r' => some .description
  | 'a' => some .asciiDescription
  | 'c' => some .character
  | 'd' | 'i' | 'u' => some .integer
  | 'o' => some .octal
  | 'x' => some (.hexadecimal false)
  | 'X' => some (.hexadecimal true)
  | 'e' => some (.exponent false)
  | 'E' => some (.exponent true)
  | 'f' => some (.fixed false)
  | 'F' => some (.fixed true)
  | 'g' => some (.general false)
  | 'G' => some (.general true)
  | _ => none

/-- A place in a template where an argument is written. -/
structure Placeholder where
  name : Option String
  /-- The characters between the name and the width, which each switch something on. -/
  flags : List Char
  width : Option Extent
  precision : Option Extent
  conversion : Conversion
  deriving DecidableEq, Repr

/-- A part of a template. -/
inductive TemplatePart where
  | text (c : Char)
  | placeholder (p : Placeholder)
  deriving DecidableEq, Repr

namespace Placeholder

/-- The rest of a name and what follows its closing bracket, with the brackets inside it
in pairs. -/
def nameRest : Nat → List Char → Option (List Char × List Char)
  | _, [] => none
  | depth, c :: rest =>
      if c == ')' && depth == 0 then some ([], rest)
      else
        let inner := if c == '(' then depth + 1 else if c == ')' then depth - 1 else depth
        (nameRest inner rest).map fun (name, after) => (c :: name, after)

/-- The name at the beginning of a placeholder, if it has one. -/
def nameAhead : List Char → Option (Option String × List Char)
  | '(' :: rest => (nameRest 0 rest).map fun (name, after) => (some (String.ofList name), after)
  | cs => some (none, cs)

/-- Whether a character is a flag. -/
def isFlag (c : Char) : Bool := ['-', '+', ' ', '#', '0'].contains c

/-- The width or precision at the beginning of a text, if there is one. -/
def extentAhead : List Char → Option Extent × List Char
  | '*' :: rest => (some .argument, rest)
  | cs =>
      let digits := cs.takeWhile Text.isAsciiDigit
      (if digits.isEmpty then none else some (.count (natOfDigits digits)),
        cs.dropWhile Text.isAsciiDigit)

/-- The precision behind a point, if there is one. A point alone means a precision of
zero. -/
def precisionAhead : List Char → Option Extent × List Char
  | '.' :: rest => (some ((extentAhead rest).1.getD (.count 0)), (extentAhead rest).2)
  | cs => (none, cs)

/-- What follows a letter for the size of a number, which means nothing. -/
def behindSize : List Char → List Char
  | [] => []
  | c :: rest => if ['h', 'l', 'L'].contains c then rest else c :: rest

/-- The placeholder behind a percent sign and what follows it. -/
def ahead (cs : List Char) : Option (Placeholder × List Char) := do
  let (name, rest) ← nameAhead cs
  let flags := rest.takeWhile isFlag
  let (width, rest) := extentAhead (rest.dropWhile isFlag)
  let (precision, rest) := precisionAhead rest
  match behindSize rest with
  | [] => none
  | c :: rest => return (⟨name, flags, width, precision, ← Conversion.ofChar? c⟩, rest)

theorem length_nameRest {depth : Nat} {cs name after : List Char}
    (h : nameRest depth cs = some (name, after)) : after.length ≤ cs.length := by
  induction cs generalizing depth name after with
  | nil => simp [nameRest] at h
  | cons c rest ih =>
    simp only [nameRest] at h
    split at h
    · simp only [Option.some.injEq, Prod.mk.injEq] at h
      simp [← h.2]
    · obtain ⟨⟨inner, tail⟩, found, same⟩ := Option.map_eq_some_iff.1 h
      simp only [Prod.mk.injEq] at same
      have := ih found
      simp only [List.length_cons, ← same.2]
      omega

theorem length_nameAhead {cs after : List Char} {name : Option String}
    (h : nameAhead cs = some (name, after)) : after.length ≤ cs.length := by
  unfold nameAhead at h
  split at h
  · obtain ⟨⟨inner, tail⟩, found, same⟩ := Option.map_eq_some_iff.1 h
    simp only [Prod.mk.injEq] at same
    have := length_nameRest found
    simp only [List.length_cons, ← same.2]
    omega
  · simp_all

theorem length_extentAhead (cs : List Char) : (extentAhead cs).2.length ≤ cs.length := by
  unfold extentAhead
  split
  · simp
  · exact (List.dropWhile_suffix _).length_le

theorem length_precisionAhead (cs : List Char) : (precisionAhead cs).2.length ≤ cs.length := by
  unfold precisionAhead
  split
  · rename_i rest
    have := length_extentAhead rest
    simp only [List.length_cons]
    omega
  · simp

theorem length_behindSize (cs : List Char) : (behindSize cs).length ≤ cs.length := by
  unfold behindSize
  split
  · simp
  · split <;> simp

/-- A placeholder takes up at least one character behind the percent sign. -/
theorem length_ahead {cs after : List Char} {p : Placeholder}
    (h : ahead cs = some (p, after)) : after.length < cs.length := by
  unfold ahead at h
  cases named : nameAhead cs with
  | none => simp [named] at h
  | some found =>
    obtain ⟨name, rest⟩ := found
    simp only [named, Option.bind_eq_bind, Option.bind_some] at h
    split at h
    · simp at h
    · rename_i c tail sized
      have size := length_behindSize
        (precisionAhead (extentAhead (rest.dropWhile isFlag)).2).2
      have precision := length_precisionAhead (extentAhead (rest.dropWhile isFlag)).2
      have width := length_extentAhead (rest.dropWhile isFlag)
      have flags := (List.dropWhile_suffix isFlag (l := rest)).length_le
      have start := length_nameAhead named
      cases converted : Conversion.ofChar? c with
      | none => simp [converted] at h
      | some conversion =>
        simp only [converted, Option.bind_some, Option.pure_def, Option.some.injEq,
          Prod.mk.injEq] at h
        rw [sized] at size
        simp only [List.length_cons] at size
        rw [← h.2]
        omega

end Placeholder

/-- The parts of a template, if all its placeholders are complete. -/
def templateParts : List Char → Option (List TemplatePart)
  | [] => some []
  | '%' :: '%' :: rest => (templateParts rest).map (.text '%' :: ·)
  | c :: rest =>
      if c == '%' then
        match h : Placeholder.ahead rest with
        | none => none
        | some (p, after) =>
            have := Placeholder.length_ahead h
            (templateParts after).map (.placeholder p :: ·)
      else (templateParts rest).map (.text c :: ·)
termination_by cs => cs.length

end JsonQuery
