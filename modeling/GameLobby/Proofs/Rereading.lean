import GameLobby.Json.Printer
import GameLobby.Json.Reader

/-!
# Reading what was written

The reader is a fold over a text, so what it makes of a text that is put together is told part by
part (`Json.Reader.Takes`). A written string takes it from the opening quote to the string, whatever
code points the string has (`Json.Reader.takes_writeString`). From there, what is written plainly is
read back as it was (`Json.read_write`), for all values without numbers whose objects have each name
once, as long as they do not nest too deep for the reader.
-/

namespace GameLobby.Json

/-- A value without numbers that nests so deep at most, and whose objects have each name once. -/
inductive Wordy : (depth : Nat) → Json → Prop
  | null {depth : Nat} : Wordy depth null
  | bool {depth : Nat} (b : Bool) : Wordy depth (bool b)
  | str {depth : Nat} (t : Text) : Wordy depth (str t)
  | arr {depth : Nat} {items : List Json} (items_wordy : ∀ v ∈ items, Wordy depth v) :
      Wordy (depth + 1) (arr items)
  | obj {depth : Nat} {members : List (Text × Json)} (names : (members.map Prod.fst).Nodup)
      (values : ∀ m ∈ members, Wordy depth m.2) : Wordy (depth + 1) (obj members)

/-- A member with a new name goes behind the others. -/
theorem put_of_notMem {name : Text} {v : Json} {members : List (Text × Json)}
    (h : name ∉ members.map Prod.fst) : put name v members = members ++ [(name, v)] := by
  induction members with
  | nil => rfl
  | cons m members ih =>
    obtain ⟨hne, hrest⟩ := not_or.1 (mt List.mem_cons.2 h)
    rw [put, if_neg (Ne.symm hne), ih hrest, List.cons_append]

namespace Reader

variable {limits : Limits} {frames : List Frame}

/-- A text takes the machine from one situation to another. -/
def Takes (limits : Limits) (m : Machine) (t : Text) (m' : Machine) : Prop :=
  t.foldlM (step limits) m = .ok m'

section
variable {m m' m'' : Machine} {t u : Text} {p : CodePoint}

theorem Takes.nil : Takes limits m [] m :=
  rfl

theorem Takes.cons (hp : step limits m p = .ok m') (h : Takes limits m' t m'') :
    Takes limits m (p :: t) m'' := by
  rw [Takes, List.foldlM_cons, hp]
  exact h

/-- Two texts are taken one after the other. -/
theorem Takes.append (h : Takes limits m t m') (h' : Takes limits m' u m'') :
    Takes limits m (t ++ u) m'' := by
  rw [Takes, List.foldlM_append, h]
  exact h'

end

/-! ## Strings -/

/-- A string goes on with a text, of which no code point closes it. -/
inductive GoesOn : Quote → Text → Quote → Prop
  | nil {q : Quote} : GoesOn q [] q
  | cons {q q' q'' : Quote} {p : CodePoint} {t : Text} (first : q.step p = .ok (.inl q'))
      (rest : GoesOn q' t q'') : GoesOn q (p :: t) q''

section
variable {q q' q'' : Quote} {t u : Text}

/-- A string goes on with two texts one after the other. -/
theorem GoesOn.append (h : GoesOn q t q') (h' : GoesOn q' u q'') : GoesOn q (t ++ u) q'' := by
  induction h with
  | nil => exact h'
  | cons first _ ih => exact .cons first (ih h')

/-- Within a string, a reader takes what the string goes on with. -/
theorem GoesOn.takes_string (h : GoesOn q t q') :
    Takes limits ⟨frames, .string q⟩ t ⟨frames, .string q'⟩ := by
  induction h with
  | nil => exact .nil
  | cons first _ ih =>
    refine .cons ?_ ih
    simp only [step, first]
    rfl

/-- Within the name of a member, it does so too. -/
theorem GoesOn.takes_nameString (h : GoesOn q t q') :
    Takes limits ⟨frames, .nameString q⟩ t ⟨frames, .nameString q'⟩ := by
  induction h with
  | nil => exact .nil
  | cons first _ ih =>
    refine .cons ?_ ih
    simp only [step, first]
    rfl

end

/-- A string of which these code points have been read, latest first, and which is outside an
escape. -/
def Quote.of (points : List CodePoint) : Quote :=
  ⟨points, none, .none⟩

section
variable {c : Char} {points : List CodePoint}

/-- An escape of a small number stands for the character of the number. -/
theorem goesOn_unitEscape (hc : c.toNat < 0x20) :
    GoesOn (.of points) (unitEscape c.toNat) (.of (.scalar c :: points)) := by
  have hdigit : ∀ n, Text.hexDigit? (Text.hexDigit (n % 16)) = some (n % 16) :=
    fun n => Text.hexDigit?_hexDigit (Nat.mod_lt _ (by decide))
  have hhex : ∀ {count value n : Nat}, count ≠ 3 →
      Quote.step ⟨points, none, .hex count value⟩ (.scalar (Text.hexDigit (n % 16))) =
        .ok (.inl ⟨points, none, .hex (count + 1) (value * 16 + n % 16)⟩) := by
    intro count value n hcount
    simp only [Quote.step, hdigit, if_neg hcount]
  refine .cons rfl (.cons rfl (.cons (hhex (by decide)) (.cons (hhex (by decide))
    (.cons (hhex (by decide)) (.cons ?_ .nil)))))
  have hvalue : (((0 * 16 + c.toNat / 16 / 16 / 16 % 16) * 16 + c.toNat / 16 / 16 % 16) * 16 +
      c.toNat / 16 % 16) * 16 + c.toNat % 16 = c.toNat := by omega
  have hnoHigh : ¬ (0xD800 ≤ c.toNat ∧ c.toNat < 0xDC00) := by omega
  simp only [Quote.step, hdigit, hvalue, if_pos, Quote.pushEscaped, if_neg hnoHigh,
    CodePoint.ofNat?_toNat]
  rfl

/-- A character is read back from what is written for it. -/
theorem goesOn_writePoint (p : CodePoint) :
    GoesOn (.of points) (writePoint .plain p) (.of (p :: points)) := by
  cases p with
  | surrogate n => exact .cons rfl .nil
  | scalar c =>
    rw [writePoint, writeChar]
    iterate 7
      split
      · next h => exact h ▸ .cons rfl (.cons rfl .nil)
    split
    · next h => exact goesOn_unitEscape h
    next hquote hslash _ _ _ _ _ hcontrol =>
    refine .cons ?_ .nil
    simp only [Quote.of, Quote.step, if_neg hquote, if_neg hslash, if_neg hcontrol]
    rfl

/-- The code points of a written string are read one after the other. -/
theorem goesOn_flatMap (points : List CodePoint) (t : Text) :
    GoesOn (.of points) (t.flatMap (writePoint .plain)) (.of (t.reverse ++ points)) := by
  induction t generalizing points with
  | nil => exact .nil
  | cons p t ih =>
    rw [List.flatMap_cons, List.reverse_cons, List.append_assoc]
    exact (goesOn_writePoint p).append (ih _)

end

section
variable (t : Text)

/-- What is written for the characters of a text is read back, last character first. -/
theorem goesOn_start : GoesOn .start (t.flatMap (writePoint .plain)) (.of t.reverse) := by
  have hpoints := goesOn_flatMap [] t
  rwa [List.append_nil] at hpoints

/-- A quotation mark closes a string. -/
theorem Quote.step_close : (Quote.of t.reverse).step (.scalar '"') = .ok (.inr t) := by
  have hstep : (Quote.of t.reverse).step (.scalar '"') = .ok (.inr t.reverse.reverse) := rfl
  rw [hstep, List.reverse_reverse]

end

/-- The machine waits for a value. -/
def Awaits (state : State) : Prop :=
  state = .value ∨ state = .valueOrClose

/-- The machine waits for the name of a member. -/
def AwaitsName (state : State) : Prop :=
  state = .name ∨ state = .nameOrClose

section
variable {state : State} {t : Text}

/-- A value starts with a character that is neither blank nor closes an array. -/
theorem step_of_awaits {c : Char} (h : Awaits state) (hspace : isSpace c = false)
    (hclose : c ≠ ']') :
    step limits ⟨frames, state⟩ (.scalar c) = openValue limits frames c := by
  rcases h with rfl | rfl
  · simp only [step, hspace]
    rfl
  · simp only [step, hspace, if_neg hclose]
    rfl

/-- A written string is read as a value. -/
theorem takes_writeString (h : Awaits state) :
    Takes limits ⟨frames, state⟩ (writeString .plain t) ⟨frames, .done (.str t)⟩ := by
  have hopen : step limits ⟨frames, state⟩ (.scalar '"') = .ok ⟨frames, .string .start⟩ :=
    (step_of_awaits h rfl (by decide)).trans rfl
  have hclose : step limits ⟨frames, .string (.of t.reverse)⟩ (.scalar '"') =
      .ok ⟨frames, .done (.str t)⟩ := by
    simp only [step, Quote.step_close]
    rfl
  exact .cons hopen ((goesOn_start t).takes_string.append (.cons hclose .nil))

/-- A written string is read as the name of a member. -/
theorem takes_writeName (h : AwaitsName state) :
    Takes limits ⟨frames, state⟩ (writeString .plain t) ⟨frames, .colon t⟩ := by
  have hopen : step limits ⟨frames, state⟩ (.scalar '"') = .ok ⟨frames, .nameString .start⟩ := by
    rcases h with rfl | rfl <;> rfl
  have hclose : step limits ⟨frames, .nameString (.of t.reverse)⟩ (.scalar '"') =
      .ok ⟨frames, .colon t⟩ := by
    simp only [step, Quote.step_close]
    rfl
  exact .cons hopen ((goesOn_start t).takes_nameString.append (.cons hclose .nil))

/-! ## Values -/

/-- What is written for a value is read as the value, with so many arrays and objects around it at
most. -/
def Rereads (limits : Limits) (depth : Nat) (v : Json) : Prop :=
  ∀ frames state, Awaits state → frames.length + depth ≤ limits.depth →
    Takes limits ⟨frames, state⟩ (v.write .plain) ⟨frames, .done v⟩

/-- The items of an array are read behind those that have been read. -/
theorem takes_writeItems {depth : Nat} (before : List Json) {items : List Json} (hne : items ≠ [])
    (hitems : ∀ v ∈ items, Rereads limits depth v) (h : Awaits state)
    (hdepth : frames.length + (depth + 1) ≤ limits.depth) :
    Takes limits ⟨.array before.reverse :: frames, state⟩ (writeItems .plain items ++ [.scalar ']'])
      ⟨frames, .done (.arr (before ++ items))⟩ := by
  induction items generalizing before state with
  | nil => exact absurd rfl hne
  | cons v rest ih =>
    have hroom : (Frame.array before.reverse :: frames).length + depth ≤ limits.depth := by
      rw [List.length_cons]
      omega
    have hv := hitems v (.head _) _ state h hroom
    cases rest with
    | nil =>
      have hclose : step limits ⟨.array before.reverse :: frames, .done v⟩ (.scalar ']') =
          .ok ⟨frames, .done (.arr (before ++ [v]))⟩ := by
        rw [← List.reverse_reverse (before ++ [v]), List.reverse_concat]
        rfl
      rw [writeItems]
      exact hv.append (.cons hclose .nil)
    | cons w more =>
      have hcomma : step limits ⟨.array before.reverse :: frames, .done v⟩ (.scalar ',') =
          .ok ⟨.array (before ++ [v]).reverse :: frames, .value⟩ := by
        rw [List.reverse_concat]
        rfl
      have hrest := ih (before ++ [v]) (List.cons_ne_nil w more)
        (fun u hu => hitems u (.tail _ hu)) (.inl rfl)
      rw [List.append_assoc, List.singleton_append] at hrest
      rw [writeItems, List.append_assoc]
      · exact hv.append (.cons hcomma hrest)
      · exact nofun

/-- The members of an object are read behind those that have been read. -/
theorem takes_writeMembers {depth : Nat} (before : List (Text × Json))
    {members : List (Text × Json)} (hne : members ≠ [])
    (hnames : ((before ++ members).map Prod.fst).Nodup)
    (hmembers : ∀ m ∈ members, Rereads limits depth m.2) (h : AwaitsName state)
    (hdepth : frames.length + (depth + 1) ≤ limits.depth) :
    Takes limits ⟨.object before [] :: frames, state⟩
      (writeMembers .plain members ++ [.scalar '\x7d'])
      ⟨frames, .done (.obj (before ++ members))⟩ := by
  induction members generalizing before state with
  | nil => exact absurd rfl hne
  | cons m rest ih =>
    obtain ⟨name, v⟩ := m
    have hroom : (Frame.object before name :: frames).length + depth ≤ limits.depth := by
      rw [List.length_cons]
      omega
    have hput : put name v before = before ++ [(name, v)] := by
      refine put_of_notMem fun hmem => ?_
      rw [List.map_append, List.map_cons] at hnames
      exact (List.nodup_append.1 hnames).2.2 name hmem name (.head _) rfl
    have hname : Takes limits ⟨.object before [] :: frames, state⟩ (writeString .plain name)
        ⟨.object before [] :: frames, .colon name⟩ := takes_writeName h
    have hcolon : step limits ⟨.object before [] :: frames, .colon name⟩ (.scalar ':') =
        .ok ⟨.object before name :: frames, .value⟩ := rfl
    have hv := hmembers (name, v) (.head _) _ .value (.inl rfl) hroom
    have hmember := hname.append (.cons hcolon hv)
    cases rest with
    | nil =>
      have hclose : step limits ⟨.object before name :: frames, .done v⟩ (.scalar '\x7d') =
          .ok ⟨frames, .done (.obj (before ++ [(name, v)]))⟩ := by
        rw [← hput]
        rfl
      rw [writeMembers]
      exact hmember.append (.cons hclose .nil)
    | cons m more =>
      have hcomma : step limits ⟨.object before name :: frames, .done v⟩ (.scalar ',') =
          .ok ⟨.object (before ++ [(name, v)]) [] :: frames, .name⟩ := by
        rw [← hput]
        rfl
      have hrest := ih (before ++ [(name, v)]) (List.cons_ne_nil m more)
        (by rwa [List.append_assoc]) (fun u hu => hmembers u (.tail _ hu)) (.inl rfl)
      rw [List.append_assoc, List.singleton_append] at hrest
      rw [writeMembers, List.append_assoc]
      · exact hmember.append (.cons hcomma hrest)
      · exact nofun

end

/-- Every value without numbers is read back, as long as it does not nest too deep. -/
theorem rereads_of_wordy {depth : Nat} {v : Json} (h : v.Wordy depth) : Rereads limits depth v := by
  induction h with
  | null =>
    intro frames state hstate _
    exact .cons ((step_of_awaits hstate rfl (by decide)).trans rfl)
      (.cons rfl (.cons rfl (.cons rfl .nil)))
  | bool b =>
    intro frames state hstate _
    have hopen := fun c => @step_of_awaits limits frames state c hstate
    cases b with
    | true =>
      exact .cons ((hopen 't' rfl (by decide)).trans rfl) (.cons rfl (.cons rfl (.cons rfl .nil)))
    | false =>
      exact .cons ((hopen 'f' rfl (by decide)).trans rfl)
        (.cons rfl (.cons rfl (.cons rfl (.cons rfl .nil))))
  | str t =>
    intro frames state hstate _
    rw [write]
    exact takes_writeString hstate
  | @arr depth items _ ih =>
    intro frames state hstate hdepth
    have hopen : step limits ⟨frames, state⟩ (.scalar '[') =
        .ok ⟨.array [] :: frames, .valueOrClose⟩ := by
      rw [step_of_awaits hstate rfl (by decide)]
      exact if_neg (by omega)
    rw [write]
    refine .cons hopen ?_
    cases items with
    | nil => exact .cons rfl .nil
    | cons v rest =>
      exact takes_writeItems [] (List.cons_ne_nil v rest) ih (.inr rfl) hdepth
  | @obj depth members names _ ih =>
    intro frames state hstate hdepth
    have hopen : step limits ⟨frames, state⟩ (.scalar '\x7b') =
        .ok ⟨.object [] [] :: frames, .nameOrClose⟩ := by
      rw [step_of_awaits hstate rfl (by decide)]
      exact if_neg (by omega)
    rw [write]
    refine .cons hopen ?_
    cases members with
    | nil => exact .cons rfl .nil
    | cons m rest =>
      exact takes_writeMembers [] (List.cons_ne_nil m rest) names ih (.inr rfl) hdepth

end Reader

/-- What is written plainly is read back as it was. -/
theorem read_write {limits : Limits} {depth : Nat} {v : Json} (h : v.Wordy depth)
    (hdepth : depth ≤ limits.depth) : read limits (v.write .plain) = .ok v := by
  have htakes : Reader.Takes limits ⟨[], .value⟩ (v.write .plain) ⟨[], .done v⟩ :=
    Reader.rereads_of_wordy h [] .value (.inl rfl) (by simpa using hdepth)
  rw [read, htakes]
  rfl

end GameLobby.Json
