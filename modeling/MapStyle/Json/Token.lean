import MapStyle.Json.Basic

/-!
# Tokens of JSON text

JSON text falls into brackets, commas, colons, texts and other scalars. A text or number may be well
formed and still have no value: a text with half of a surrogate pair, or a number beyond the
doubles. That matters only where its value is wanted. The first character that begins no token ends
the list with `broken`.
-/

namespace MapStyle.Json

/-- A piece of JSON text. -/
inductive Token
  | openArray
  | closeArray
  | openObject
  | closeObject
  | comma
  | colon
  /-- A text, with its value if it has one. Only a text can be a key. -/
  | text (value : Option String)
  /-- A scalar that is no text, with its value if it has one. -/
  | scalar (value : Option Scalar)
  /-- No token begins here. -/
  | broken

namespace Token

/-- White space between tokens. -/
def isSpace (c : Char) : Bool := c == ' ' || c == '\n' || c == '\t' || c == '\r'

/-! ## Numbers -/

/-- The number that a list of decimal digits stands for. -/
def digitsValue (ds : List Char) : Nat := ds.foldl (fun n c => 10 * n + (c.toNat - '0'.toNat)) 0

/-- Digits up to the first other character, and what follows; there must be one at least. -/
def digits? (s : List Char) : Option (List Char × List Char) :=
  if (s.takeWhile Char.isDigit).isEmpty then none
  else some (s.takeWhile Char.isDigit, s.dropWhile Char.isDigit)

/-- The whole part of a number: zero alone, or digits that do not begin with zero. -/
def whole? : List Char → Option (List Char × List Char)
  | '0' :: rest => if (rest.head?.map Char.isDigit) == some true then none else some (['0'], rest)
  | s => digits? s

/-- The digits behind the point, if there is a point. -/
def fraction? : List Char → Option (Option (List Char) × List Char)
  | '.' :: rest => (digits? rest).map fun (ds, tail) => (some ds, tail)
  | s => some (none, s)

/-- The digits of an exponent with its sign. -/
def exponentDigits? : List Char → Option (Int × List Char)
  | '-' :: rest => (digits? rest).map fun (ds, tail) => (-(digitsValue ds : Int), tail)
  | '+' :: rest => (digits? rest).map fun (ds, tail) => ((digitsValue ds : Int), tail)
  | s => (digits? s).map fun (ds, tail) => ((digitsValue ds : Int), tail)

/-- The exponent, if there is one. -/
def exponent? : List Char → Option (Option Int × List Char)
  | 'e' :: rest => (exponentDigits? rest).map fun (n, tail) => (some n, tail)
  | 'E' :: rest => (exponentDigits? rest).map fun (n, tail) => (some n, tail)
  | s => some (none, s)

/-- A double as a scalar, unless it is beyond the finite ones. -/
def floatScalar (x : Binary64) : Option Scalar := if x.isFinite then some (.float x) else none

/-- The value of a number. A whole number stays one if it fits 64 bits, with or without a sign;
    negative zero and all others are doubles. -/
def numberScalar (negative : Bool) (whole : List Char) (fraction : Option (List Char))
    (exponent : Option Int) : Option Scalar :=
  match fraction, exponent with
  | none, none =>
    let n := digitsValue whole
    if !negative && n < 0x10000000000000000 then some (.int n)
    else if negative && n != 0 && n ≤ 0x8000000000000000 then some (.int (-n))
    else floatScalar (.ofDecimal negative n 0)
  | _, _ =>
    let places := fraction.getD []
    floatScalar
      (.ofDecimal negative (digitsValue (whole ++ places)) (exponent.getD 0 - places.length))

/-- A number without its sign, and what follows. -/
def unsigned? (negative : Bool) (s : List Char) : Option (Option Scalar × List Char) := do
  let (whole, s) ← whole? s
  let (fraction, s) ← fraction? s
  let (exponent, s) ← exponent? s
  pure (numberScalar negative whole fraction exponent, s)

/-- A number and what follows. -/
def number? : List Char → Option (Option Scalar × List Char)
  | '-' :: rest => unsigned? true rest
  | s => unsigned? false s

/-! ## Texts -/

/-- What one character or escape of a text stands for. -/
inductive Piece
  | char (c : Char)
  /-- A 16-bit code unit given by its number. -/
  | unit (n : Nat)

/-- The value of a hexadecimal digit. -/
def hexValue? (c : Char) : Option Nat :=
  if c.isDigit then some (c.toNat - '0'.toNat)
  else if 'a' ≤ c && c ≤ 'f' then some (c.toNat - 'a'.toNat + 10)
  else if 'A' ≤ c && c ≤ 'F' then some (c.toNat - 'A'.toNat + 10)
  else none

/-- The code unit that four hexadecimal digits stand for. -/
def unit? (a b c d : Char) : Option Piece := do
  let a ← hexValue? a
  let b ← hexValue? b
  let c ← hexValue? c
  let d ← hexValue? d
  pure (.unit (((a * 16 + b) * 16 + c) * 16 + d))

/-- The character that a letter after a backslash stands for. -/
def escaped? (c : Char) : Option Char :=
  if c = '\x22' || c = '\\' || c = '/' then some c
  else if c = 'b' then some '\x08'
  else if c = 'f' then some '\x0c'
  else if c = 'n' then some '\n'
  else if c = 'r' then some '\r'
  else if c = 't' then some '\t'
  else none

/-- The pieces of a text up to its closing quote, and what follows. Controls must be escaped. -/
def pieces? : List Char → Option (List Piece × List Char)
  | '\x22' :: rest => some ([], rest)
  | '\\' :: 'u' :: a :: b :: c :: d :: rest =>
    match unit? a b c d, pieces? rest with
    | some piece, some (pieces, tail) => some (piece :: pieces, tail)
    | _, _ => none
  | '\\' :: c :: rest =>
    match escaped? c, pieces? rest with
    | some c, some (pieces, tail) => some (.char c :: pieces, tail)
    | _, _ => none
  | c :: rest =>
    if c.toNat < 0x20 || c = '\\' then none
    else (pieces? rest).map fun (pieces, tail) => (.char c :: pieces, tail)
  | [] => none

/-- The characters of a text; two surrogates in order make one, and one alone makes none. -/
def characters? : List Piece → Option (List Char)
  | [] => some []
  | .char c :: rest => (characters? rest).map (c :: ·)
  | .unit n :: .unit m :: rest =>
    if 0xD800 ≤ n && n < 0xDC00 then
      if 0xDC00 ≤ m && m < 0xE000 then
        (characters? rest).map (Char.ofNat (0x10000 + (n - 0xD800) * 0x400 + (m - 0xDC00)) :: ·)
      else none
    else if 0xDC00 ≤ n && n < 0xE000 then none
    else (characters? (.unit m :: rest)).map (Char.ofNat n :: ·)
  | .unit n :: rest =>
    if 0xD800 ≤ n && n < 0xE000 then none else (characters? rest).map (Char.ofNat n :: ·)

/-- A text behind its opening quote, and what follows. -/
def text? (s : List Char) : Option (Option String × List Char) :=
  (pieces? s).map fun (pieces, tail) => ((characters? pieces).map String.ofList, tail)

/-! ## Token lists -/

/-- The token that begins with `c`, and what follows it. -/
def next? (c : Char) (rest : List Char) : Option (Token × List Char) :=
  match c, rest with
  | '[', _ => some (openArray, rest)
  | ']', _ => some (closeArray, rest)
  | '\x7b', _ => some (openObject, rest)
  | '\x7d', _ => some (closeObject, rest)
  | ',', _ => some (comma, rest)
  | ':', _ => some (colon, rest)
  | 'n', 'u' :: 'l' :: 'l' :: tail => some (scalar (some .null), tail)
  | 't', 'r' :: 'u' :: 'e' :: tail => some (scalar (some (.bool true)), tail)
  | 'f', 'a' :: 'l' :: 's' :: 'e' :: tail => some (scalar (some (.bool false)), tail)
  | '\x22', _ => (text? rest).map fun (value, tail) => (text value, tail)
  | _, _ => (number? (c :: rest)).map fun (value, tail) => (scalar value, tail)

theorem digits?_length {s ds tail : List Char} (h : digits? s = some (ds, tail)) :
    tail.length < s.length := by
  unfold digits? at h
  split at h
  · simp at h
  · next some =>
    simp only [Option.some.injEq, Prod.mk.injEq] at h
    obtain ⟨-, rfl⟩ := h
    have parts := congrArg List.length (List.takeWhile_append_dropWhile (p := Char.isDigit) (l := s))
    rw [List.length_append] at parts
    have : 0 < (s.takeWhile Char.isDigit).length := by
      cases e : s.takeWhile Char.isDigit with
      | nil => simp [e] at some
      | cons => simp
    omega

theorem whole?_length {s ds tail : List Char} (h : whole? s = some (ds, tail)) :
    tail.length < s.length := by
  unfold whole? at h
  split at h
  · split at h
    · simp at h
    · simp only [Option.some.injEq, Prod.mk.injEq] at h
      simp [← h.2]
  · exact digits?_length h

theorem fraction?_length {s tail : List Char} {ds : Option (List Char)}
    (h : fraction? s = some (ds, tail)) : tail.length ≤ s.length := by
  unfold fraction? at h
  split at h
  · simp only [Option.map_eq_some_iff, Prod.mk.injEq, Prod.exists] at h
    obtain ⟨_, _, found, -, rfl⟩ := h
    have := digits?_length found
    simp only [List.length_cons]
    omega
  · simp_all

theorem exponentDigits?_length {s tail : List Char} {n : Int}
    (h : exponentDigits? s = some (n, tail)) : tail.length < s.length := by
  unfold exponentDigits? at h
  split at h
  all_goals
    simp only [Option.map_eq_some_iff, Prod.mk.injEq, Prod.exists] at h
    obtain ⟨_, _, found, -, rfl⟩ := h
    have := digits?_length found
    grind

theorem exponent?_length {s tail : List Char} {n : Option Int}
    (h : exponent? s = some (n, tail)) : tail.length ≤ s.length := by
  unfold exponent? at h
  split at h
  · simp only [Option.map_eq_some_iff, Prod.mk.injEq, Prod.exists] at h
    obtain ⟨_, _, found, -, rfl⟩ := h
    have := exponentDigits?_length found
    simp only [List.length_cons]
    omega
  · simp only [Option.map_eq_some_iff, Prod.mk.injEq, Prod.exists] at h
    obtain ⟨_, _, found, -, rfl⟩ := h
    have := exponentDigits?_length found
    simp only [List.length_cons]
    omega
  · simp_all

theorem unsigned?_length {negative : Bool} {s tail : List Char} {value : Option Scalar}
    (h : unsigned? negative s = some (value, tail)) : tail.length < s.length := by
  simp only [unsigned?, Option.bind_eq_bind, Option.bind_eq_some_iff, Prod.exists, Option.pure_def,
    Option.some.injEq, Prod.mk.injEq] at h
  obtain ⟨_, s₁, whole, _, s₂, fraction, _, s₃, exponent, -, rfl⟩ := h
  have := whole?_length whole
  have := fraction?_length fraction
  have := exponent?_length exponent
  omega

theorem number?_length {s tail : List Char} {value : Option Scalar}
    (h : number? s = some (value, tail)) : tail.length < s.length := by
  unfold number? at h
  split at h
  · have := unsigned?_length h
    simp only [List.length_cons]
    omega
  · exact unsigned?_length h

theorem pieces?_length {s tail : List Char} {pieces : List Piece}
    (h : pieces? s = some (pieces, tail)) : tail.length < s.length := by
  fun_induction pieces? s generalizing pieces tail with
  | case1 rest =>
    simp only [Option.some.injEq, Prod.mk.injEq] at h
    simp [← h.2]
  | case2 a b c d rest =>
    rename_i found _ ih
    simp only [Option.some.injEq, Prod.mk.injEq] at h
    obtain ⟨-, rfl⟩ := h
    have := ih found
    simp only [List.length_cons]
    omega
  | case4 c rest =>
    rename_i found _ ih
    simp only [Option.some.injEq, Prod.mk.injEq] at h
    obtain ⟨-, rfl⟩ := h
    have := ih found
    simp only [List.length_cons]
    omega
  | case7 c rest _ _ _ _ ih =>
    simp only [Option.map_eq_some_iff, Prod.mk.injEq, Prod.exists] at h
    obtain ⟨_, _, found, -, rfl⟩ := h
    have := ih found
    simp only [List.length_cons]
    omega
  | _ => simp_all

theorem text?_length {s tail : List Char} {value : Option String}
    (h : text? s = some (value, tail)) : tail.length < s.length := by
  simp only [text?, Option.map_eq_some_iff, Prod.mk.injEq, Prod.exists] at h
  obtain ⟨_, _, found, -, rfl⟩ := h
  exact pieces?_length found

/-- A token takes at least one character. -/
theorem next?_length {c : Char} {rest tail : List Char} {token : Token}
    (h : next? c rest = some (token, tail)) : tail.length ≤ rest.length := by
  unfold next? at h
  split at h
  case h_10 =>
    simp only [Option.map_eq_some_iff, Prod.mk.injEq, Prod.exists] at h
    obtain ⟨_, _, found, -, rfl⟩ := h
    have := text?_length found
    omega
  case h_11 =>
    simp only [Option.map_eq_some_iff, Prod.mk.injEq, Prod.exists] at h
    obtain ⟨_, _, found, -, rfl⟩ := h
    have := number?_length found
    simp only [List.length_cons] at this
    omega
  all_goals
    simp only [Option.some.injEq, Prod.mk.injEq] at h
    obtain ⟨-, rfl⟩ := h
    grind

end Token

/-- The tokens of a text. -/
def tokens : List Char → List Token
  | [] => []
  | c :: rest =>
    if Token.isSpace c then tokens rest
    else
      match h : Token.next? c rest with
      | none => [.broken]
      | some (token, tail) =>
        have : tail.length ≤ rest.length := Token.next?_length h
        token :: tokens tail
termination_by s => s.length

end MapStyle.Json
