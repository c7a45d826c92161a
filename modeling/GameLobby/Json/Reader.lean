import GameLobby.Json

/-!
# Reading JSON

A machine reads a JSON text one code point at a time. Its state is the stack of the arrays and
objects that are open and what it is in the middle of, so the reader is a fold over the text and
nesting costs no recursion. Two limits apply: how many brackets may be open at once, and how many
digits an integer may have. The first fault in the order of the text is the one reported.

Beyond the standard the reader takes `NaN`, `Infinity` and `-Infinity`, and escapes of surrogates
that stand alone.
-/

namespace GameLobby.Json

/-- Why a text is not read. -/
inductive Fault where
  | malformed
  | tooDeep
  | tooManyDigits
  deriving DecidableEq, Repr

/-- How deep a text may nest and how many digits an integer may have. -/
structure Limits where
  depth : Nat
  digits : Nat
  deriving DecidableEq, Repr

namespace Reader

/-- An array or object that is open: what stands before the value being read, latest first. -/
inductive Frame where
  | array (items : List Json)
  | object (members : List (Text × Json)) (name : Text)

/-- How much of a number has been read. -/
inductive Part where
  | sign
  | zero
  | whole
  | point
  | fraction
  | mark
  | markSign
  | power
  deriving DecidableEq, Repr

/-- A number that is being read, its digits latest first. -/
structure Number where
  part : Part
  negative : Bool
  whole : List Nat
  fraction : List Nat
  powerNegative : Bool
  power : List Nat
  deriving DecidableEq, Repr

/-- How far an escape has been read. -/
inductive Escape where
  | none
  | opened
  | hex (count : Nat) (value : Nat)
  deriving DecidableEq, Repr

/-- A string that is being read: its code points, latest first, and an escaped high surrogate that
waits for its other half. -/
structure Quote where
  points : List CodePoint
  high : Option Nat
  escape : Escape
  deriving DecidableEq, Repr

/-- What the machine is in the middle of. -/
inductive State where
  | value
  | valueOrClose
  | name
  | nameOrClose
  | colon (name : Text)
  | word (rest : List Char) (v : Json)
  | number (n : Number)
  | string (q : Quote)
  | nameString (q : Quote)
  | done (v : Json)

/-- The machine: the open arrays and objects, innermost first. An object whose name is being read
stands on the stack with the empty name. -/
structure Machine where
  frames : List Frame
  state : State

/-- The four characters that may stand between tokens. -/
def isSpace (c : Char) : Bool :=
  c = ' ' || c = '\t' || c = '\n' || c = '\r'

/-! ## Numbers -/

/-- A number of which only this part has been read. -/
def Number.start (part : Part) (negative : Bool) (whole : List Nat) : Number :=
  ⟨part, negative, whole, [], false, []⟩

/-- The integer before the point, if it is not too long. -/
def Number.integer (limits : Limits) (n : Number) : Except Fault Json :=
  if limits.digits < n.whole.length then .error .tooManyDigits
  else
    let size : Int := Binary64.ofDigits n.whole.reverse
    .ok (.int (if n.negative then -size else size))

/-- The floating-point number read so far. -/
def Number.decimal (n : Number) : Json :=
  let power : Int := Binary64.ofDigits n.power.reverse
  let power := if n.powerNegative then -power else power
  .float (Binary64.ofDecimal n.negative (n.whole.reverse ++ n.fraction.reverse)
    (power - n.fraction.length))

/--
The value of a number that ends here. A point or an exponent mark without a digit is not part of
the number, and nothing that may follow a number starts with either.
-/
def Number.finish (limits : Limits) (n : Number) : Except Fault Json :=
  match n.part with
  | .sign => .error .malformed
  | .zero | .whole => n.integer limits
  | .fraction | .power => .ok n.decimal
  | .point => do
    discard (n.integer limits)
    .error .malformed
  | .mark | .markSign => do
    if n.fraction = [] then discard (n.integer limits)
    .error .malformed

/-- The number with one more character, if it goes on. -/
def Number.extend? (n : Number) (c : Char) : Option Number :=
  match n.part, Text.decimalDigit? c with
  | .sign, some 0 => some { n with part := .zero, whole := [0] }
  | .sign, some d => some { n with part := .whole, whole := [d] }
  | .whole, some d => some { n with whole := d :: n.whole }
  | .point, some d | .fraction, some d =>
    some { n with part := .fraction, fraction := d :: n.fraction }
  | .mark, some d | .markSign, some d | .power, some d =>
    some { n with part := .power, power := d :: n.power }
  | .zero, none | .whole, none =>
    if c = '.' then some { n with part := .point }
    else if c = 'e' ∨ c = 'E' then some { n with part := .mark }
    else none
  | .fraction, none =>
    if c = 'e' ∨ c = 'E' then some { n with part := .mark } else none
  | .mark, none =>
    if c = '+' then some { n with part := .markSign }
    else if c = '-' then some { n with part := .markSign, powerNegative := true }
    else none
  | _, _ => none

/-! ## Strings -/

/-- A string of which nothing has been read. -/
def Quote.start : Quote :=
  ⟨[], none, .none⟩

/-- The code points read, a waiting surrogate being one of them. -/
def Quote.settled (q : Quote) : List CodePoint :=
  match q.high.bind CodePoint.ofNat? with
  | some p => p :: q.points
  | none => q.points

/-- The string with one more code point, outside an escape. -/
def Quote.push (q : Quote) (p : CodePoint) : Quote :=
  ⟨p :: q.settled, none, .none⟩

/-- The string with one more escape by number; a low surrogate completes a waiting high one. -/
def Quote.pushEscaped (q : Quote) (n : Nat) : Quote :=
  if 0xD800 ≤ n ∧ n < 0xDC00 then ⟨q.settled, some n, .none⟩
  else
    match q.high with
    | some high =>
      if 0xDC00 ≤ n ∧ n < 0xE000 then
        match CodePoint.ofNat? (0x10000 + (high - 0xD800) * 0x400 + (n - 0xDC00)) with
        | some p => ⟨p :: q.points, none, .none⟩
        | none => q
      else match CodePoint.ofNat? n with
        | some p => q.push p
        | none => q
    | none =>
      match CodePoint.ofNat? n with
      | some p => q.push p
      | none => q

/-- The character that a one-letter escape stands for. -/
def escaped? (c : Char) : Option Char :=
  if c = '"' ∨ c = '\\' ∨ c = '/' then some c
  else if c = 'b' then some '\x08'
  else if c = 'f' then some '\x0c'
  else if c = 'n' then some '\n'
  else if c = 'r' then some '\r'
  else if c = 't' then some '\t'
  else none

/-- The string with one more code point of the text, or its value if that closes it. -/
def Quote.step (q : Quote) (p : CodePoint) : Except Fault (Quote ⊕ Text) :=
  match q.escape, p with
  | .none, .scalar c =>
    if c = '"' then .ok (.inr q.settled.reverse)
    else if c = '\\' then .ok (.inl { q with escape := .opened })
    else if c.toNat < 0x20 then .error .malformed
    else .ok (.inl (q.push p))
  | .none, .surrogate _ => .ok (.inl (q.push p))
  | .opened, .scalar c =>
    if c = 'u' then .ok (.inl { q with escape := .hex 0 0 })
    else match escaped? c with
      | some e => .ok (.inl (q.push (.scalar e)))
      | none => .error .malformed
  | .hex count value, .scalar c =>
    match Text.hexDigit? c with
    | some d =>
      if count = 3 then .ok (.inl (q.pushEscaped (value * 16 + d)))
      else .ok (.inl { q with escape := .hex (count + 1) (value * 16 + d) })
    | none => .error .malformed
  | .opened, .surrogate _ | .hex _ _, .surrogate _ => .error .malformed

/-! ## The machine -/

/-- A value starts with this character. -/
def openValue (limits : Limits) (frames : List Frame) (c : Char) : Except Fault Machine :=
  let word (rest : String) (v : Json) : Except Fault Machine := .ok ⟨frames, .word rest.toList v⟩
  if c = '"' then .ok ⟨frames, .string .start⟩
  else if c = '[' then
    if limits.depth ≤ frames.length then .error .tooDeep
    else .ok ⟨.array [] :: frames, .valueOrClose⟩
  else if c = '\x7b' then
    if limits.depth ≤ frames.length then .error .tooDeep
    else .ok ⟨.object [] [] :: frames, .nameOrClose⟩
  else if c = 'n' then word "ull" .null
  else if c = 't' then word "rue" (.bool true)
  else if c = 'f' then word "alse" (.bool false)
  else if c = 'N' then word "aN" (.float .nan)
  else if c = 'I' then word "nfinity" (.float (.infinite false))
  else if c = '-' then .ok ⟨frames, .number (.start .sign true [])⟩
  else match Text.decimalDigit? c with
    | some 0 => .ok ⟨frames, .number (.start .zero false [0])⟩
    | some d => .ok ⟨frames, .number (.start .whole false [d])⟩
    | none => .error .malformed

/-- A value is complete, and this character follows it. -/
def afterValue (frames : List Frame) (v : Json) (c : Char) : Except Fault Machine :=
  if isSpace c then .ok ⟨frames, .done v⟩
  else match frames with
    | [] => .error .malformed
    | .array items :: outer =>
      if c = ',' then .ok ⟨.array (v :: items) :: outer, .value⟩
      else if c = ']' then .ok ⟨outer, .done (.arr (v :: items).reverse)⟩
      else .error .malformed
    | .object members name :: outer =>
      if c = ',' then .ok ⟨.object (put name v members) [] :: outer, .name⟩
      else if c = '\x7d' then .ok ⟨outer, .done (.obj (put name v members))⟩
      else .error .malformed

/-- The machine after one more code point. -/
def step (limits : Limits) (m : Machine) (p : CodePoint) : Except Fault Machine :=
  match m.state with
  | .string q => do
    match ← q.step p with
    | .inl q => .ok ⟨m.frames, .string q⟩
    | .inr t => .ok ⟨m.frames, .done (.str t)⟩
  | .nameString q => do
    match ← q.step p with
    | .inl q => .ok ⟨m.frames, .nameString q⟩
    | .inr t => .ok ⟨m.frames, .colon t⟩
  | .number n =>
    match p with
    | .surrogate _ => do
      discard (n.finish limits)
      .error .malformed
    | .scalar c =>
      if n.part = .sign ∧ c = 'I' then
        .ok ⟨m.frames, .word "nfinity".toList (.float (.infinite true))⟩
      else match n.extend? c with
        | some n => .ok ⟨m.frames, .number n⟩
        | none => do afterValue m.frames (← n.finish limits) c
  | state =>
    match p with
    | .surrogate _ => .error .malformed
    | .scalar c =>
      match state with
      | .value => if isSpace c then .ok m else openValue limits m.frames c
      | .valueOrClose =>
        if isSpace c then .ok m
        else if c = ']' then .ok ⟨m.frames.tail, .done (.arr [])⟩
        else openValue limits m.frames c
      | .name =>
        if isSpace c then .ok m
        else if c = '"' then .ok ⟨m.frames, .nameString .start⟩
        else .error .malformed
      | .nameOrClose =>
        if isSpace c then .ok m
        else if c = '"' then .ok ⟨m.frames, .nameString .start⟩
        else if c = '\x7d' then .ok ⟨m.frames.tail, .done (.obj [])⟩
        else .error .malformed
      | .colon name =>
        if isSpace c then .ok m
        else if c = ':' then
          match m.frames with
          | .object members _ :: outer => .ok ⟨.object members name :: outer, .value⟩
          | _ => .error .malformed
        else .error .malformed
      | .word (d :: rest) v =>
        if c = d then .ok ⟨m.frames, if rest = [] then .done v else .word rest v⟩
        else .error .malformed
      | .done v => afterValue m.frames v c
      | _ => .error .malformed

/-- The value of a text that ends here. -/
def finish (limits : Limits) (m : Machine) : Except Fault Json :=
  match m.state, m.frames with
  | .done v, [] => .ok v
  | .number n, [] => n.finish limits
  | .number n, _ => do
    discard (n.finish limits)
    .error .malformed
  | _, _ => .error .malformed

end Reader

/-- The value that a text spells. -/
def read (limits : Limits) (t : Text) : Except Fault Json := do
  let m ← t.foldlM (Reader.step limits) ⟨[], .value⟩
  Reader.finish limits m

end GameLobby.Json
