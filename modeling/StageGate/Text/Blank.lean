/-! Blank characters, trimming and splitting. -/
namespace StageGate.Text

/-- The characters with the White_Space property. -/
def isBlankChar (c : Char) : Bool :=
  let n := c.toNat
  (9 ≤ n && n ≤ 13) || n == 0x20 || n == 0x85 || n == 0xA0 || n == 0x1680 ||
    (0x2000 ≤ n && n ≤ 0x200A) || n == 0x2028 || n == 0x2029 || n == 0x202F || n == 0x205F ||
    n == 0x3000

def trimLeft (cs : List Char) : List Char :=
  cs.dropWhile isBlankChar

def trimRight (cs : List Char) : List Char :=
  (trimLeft cs.reverse).reverse

def trimChars (cs : List Char) : List Char :=
  trimRight (trimLeft cs)

def trim (s : String) : String :=
  String.ofList (trimChars s.toList)

theorem trimLeft_trimLeft (cs : List Char) : trimLeft (trimLeft cs) = trimLeft cs := by
  induction cs with
  | nil => rfl
  | cons c cs ih =>
    by_cases hblank : isBlankChar c
    · simpa [trimLeft, hblank] using ih
    · simp [trimLeft, hblank]

theorem not_isBlankChar_of_trimLeft {cs rest : List Char} {c : Char} (h : trimLeft cs = c :: rest) :
    isBlankChar c = false := by
  have hhead := List.head?_dropWhile_not isBlankChar cs
  unfold trimLeft at h
  rw [h] at hhead
  exact hhead

theorem trimRight_cons {c : Char} (hc : isBlankChar c = false) (cs : List Char) :
    trimRight (c :: cs) = c :: trimRight cs := by
  simp only [trimRight, trimLeft, List.reverse_cons, List.dropWhile_append, List.dropWhile_cons, hc]
  split <;> simp_all

theorem trimRight_trimRight (cs : List Char) : trimRight (trimRight cs) = trimRight cs := by
  simp [trimRight, trimLeft_trimLeft]

theorem trimChars_trimChars (cs : List Char) : trimChars (trimChars cs) = trimChars cs := by
  unfold trimChars
  cases h : trimLeft cs with
  | nil => rfl
  | cons c rest =>
    have hc := not_isBlankChar_of_trimLeft h
    have hkept : trimLeft (trimRight (c :: rest)) = trimRight (c :: rest) := by
      rw [trimRight_cons hc]
      simp [trimLeft, hc]
    rw [hkept, trimRight_trimRight]

theorem trim_trim (s : String) : trim (trim s) = trim s := by
  simp [trim, trimChars_trimChars]

/-- Nothing is left of a blank text once it is trimmed. -/
def isBlank (s : String) : Bool :=
  s.toList.all isBlankChar

/-- The pieces between the separators: one more than there are separators. -/
def splitChars (sep : Char) : List Char → List (List Char)
  | [] => [[]]
  | c :: cs =>
    if c = sep then [] :: splitChars sep cs
    else
      match splitChars sep cs with
      | [] => [[c]]
      | piece :: pieces => (c :: piece) :: pieces

def split (sep : Char) (s : String) : List String :=
  (splitChars sep s.toList).map String.ofList

theorem splitChars_ne_nil (sep : Char) (cs : List Char) : splitChars sep cs ≠ [] := by
  cases cs with
  | nil => simp [splitChars]
  | cons c cs =>
    rw [splitChars]
    split
    · simp
    · split <;> simp

theorem splitChars_append (sep : Char) (cs rest : List Char) :
    splitChars sep (cs ++ sep :: rest) = splitChars sep cs ++ splitChars sep rest := by
  induction cs with
  | nil => simp [splitChars]
  | cons c cs ih =>
    rw [List.cons_append, splitChars, splitChars, ih]
    cases hcs : splitChars sep cs with
    | nil => exact (splitChars_ne_nil sep cs hcs).elim
    | cons piece pieces => split <;> rfl

theorem splitChars_whole {sep : Char} {cs : List Char} (h : sep ∉ cs) :
    splitChars sep cs = [cs] := by
  induction cs with
  | nil => rfl
  | cons c cs ih =>
    rw [List.mem_cons, not_or] at h
    rw [splitChars, if_neg (Ne.symm h.1), ih h.2]

def asciiLower (s : String) : String :=
  String.ofList (s.toList.map Char.toLower)

/-- Equality up to the case of the letters `A` to `Z`. -/
def sameIgnoringCase (a b : String) : Bool :=
  asciiLower a == asciiLower b

end StageGate.Text
