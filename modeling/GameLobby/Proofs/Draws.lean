import GameLobby.Database.Primitive

/-!
# What has been drawn from the supplies

An operation draws clock readings and identifiers one after another, and entropy in blocks. So its
supplies are always those of its start after a number of readings and a number of identifiers
(`Supply.drawn`), and what it writes carries the readings and identifiers with these numbers
(`Supply.time`, `Supply.id`). The lemmas here turn each draw into a step of these numbers.
-/

namespace GameLobby

namespace Supply

/-- The supplies after a number of clock readings and of identifiers, with other entropy. -/
def drawn (s : Supply) (readings ids : Nat) (entropy : Entropy) : Supply :=
  ⟨Nat.repeat (·.read.2) readings s.clock, Nat.repeat (·.next.2) ids s.ids, entropy⟩

/-- The clock reading with a number; the next one has the number zero. -/
def time (s : Supply) (n : Nat) : Timestamp :=
  (Nat.repeat (·.read.2) n s.clock).read.1

/-- The identifier with a number; the next one has the number zero. -/
def id (s : Supply) (n : Nat) : Uuid :=
  (Nat.repeat (·.next.2) n s.ids).next.1

@[simp] theorem reading_drawn (s : Supply) (a b : Nat) (e : Entropy) :
    (s.drawn a b e).reading = (s.time a, s.drawn (a + 1) b e) := rfl

@[simp] theorem freshId_drawn (s : Supply) (a b : Nat) (e : Entropy) :
    (s.drawn a b e).freshId = (s.id b, s.drawn a (b + 1) e) := rfl

/-- The identifiers behind those that have been drawn. -/
@[simp] theorem id_drawn (s : Supply) (a b : Nat) (e : Entropy) (n : Nat) :
    (s.drawn a b e).id n = s.id (b + n) := by
  have hrepeat : Nat.repeat (·.next.2) n (Nat.repeat (·.next.2) b s.ids) =
      Nat.repeat (·.next.2) (b + n) s.ids := by
    induction n with
    | zero => rfl
    | succ n ih => exact congrArg (·.next.2) ih
  exact congrArg (·.next.1) hrepeat

end Supply

end GameLobby
