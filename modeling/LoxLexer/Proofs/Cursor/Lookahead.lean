import Mathlib.Logic.Function.Iterate

/-! # Iterators that look ahead

A `Lookahead` is an iterator over characters with their byte offsets that can show the next two of
them before they are taken. It may keep what it showed in a buffer. `Lookahead.Lawful` says that it
gives what it was made of, and that looking moves nothing. Nothing else about it is used;
`Lookahead.buffered` keeps these laws.
-/

set_option autoImplicit false

namespace LoxLexer

/-- The characters of a text from a byte offset on, each with its own offset. -/
def charIndices (offset : Nat) : List Char → List (Nat × Char)
  | [] => []
  | c :: cs => (offset, c) :: charIndices (offset + c.utf8Size) cs

/-- The states of an iterator and what can be done with it. Looking changes the state too, as it may
fill a buffer. -/
structure Lookahead where
  State : Type
  ofList : List (Nat × Char) → State
  next : State → Option (Nat × Char) × State
  peek : State → Option (Nat × Char) × State
  peekSecond : State → Option (Nat × Char) × State

namespace Lookahead

variable {L : Lookahead}

/-- What call number `n` gives, from zero on, if nothing but calls of `next` follows. -/
def nth (L : Lookahead) (i : L.State) : Nat → Option (Nat × Char)
  | 0 => (L.next i).1
  | n + 1 => L.nth (L.next i).2 n

/-- An iterator gives the elements of its list and then nothing more, and looking shows what calls
would give without moving it. -/
structure Lawful (L : Lookahead) : Prop where
  ofList (xs : List (Nat × Char)) (n : Nat) : L.nth (L.ofList xs) n = xs[n]?
  peek_eq (i : L.State) : (L.peek i).1 = L.nth i 0
  nth_peek (i : L.State) (n : Nat) : L.nth (L.peek i).2 n = L.nth i n
  peekSecond_eq (i : L.State) : (L.peekSecond i).1 = L.nth i 1
  nth_peekSecond (i : L.State) (n : Nat) : L.nth (L.peekSecond i).2 n = L.nth i n

/-- The iterator will give exactly this. -/
def Yields (L : Lookahead) (i : L.State) (xs : List (Nat × Char)) : Prop :=
  ∀ n, L.nth i n = xs[n]?

namespace Yields

variable {i : L.State} {x : Nat × Char} {xs : List (Nat × Char)}

theorem next_nil (h : L.Yields i []) : (L.next i).1 = none ∧ L.Yields (L.next i).2 [] :=
  ⟨h 0, fun n => h (n + 1)⟩

theorem next_cons (h : L.Yields i (x :: xs)) :
    (L.next i).1 = some x ∧ L.Yields (L.next i).2 xs :=
  ⟨h 0, fun n => h (n + 1)⟩

variable (hL : L.Lawful)
include hL

theorem peek (h : L.Yields i xs) : (L.peek i).1 = xs[0]? ∧ L.Yields (L.peek i).2 xs :=
  ⟨(hL.peek_eq i).trans (h 0), fun n => (hL.nth_peek i n).trans (h n)⟩

theorem peekSecond (h : L.Yields i xs) :
    (L.peekSecond i).1 = xs[1]? ∧ L.Yields (L.peekSecond i).2 xs :=
  ⟨(hL.peekSecond_eq i).trans (h 1), fun n => (hL.nth_peekSecond i n).trans (h n)⟩

end Yields

/-! ## An iterator with a buffer -/

/-- What was looked at and not yet taken, the end of the list included, and what is left. -/
structure Buffer where
  queue : List (Option (Nat × Char))
  rest : List (Nat × Char)

namespace Buffer

def next (b : Buffer) : Option (Nat × Char) × Buffer :=
  match b.queue with
  | [] => (b.rest.head?, { b with rest := b.rest.tail })
  | x :: queue => (x, { b with queue := queue })

/-- Move an element into the buffer. -/
def pull (b : Buffer) : Buffer := ⟨b.queue ++ [b.rest.head?], b.rest.tail⟩

/-- Have at least `n` elements in the buffer. -/
def fill (b : Buffer) (n : Nat) : Buffer := pull^[n - b.queue.length] b

def look (b : Buffer) (n : Nat) : Option (Nat × Char) × Buffer :=
  ((b.fill (n + 1)).queue[n]?.join, b.fill (n + 1))

end Buffer

/-- An iterator that moves what it shows into a buffer. -/
def buffered : Lookahead where
  State := Buffer
  ofList xs := ⟨[], xs⟩
  next := Buffer.next
  peek b := b.look 0
  peekSecond b := b.look 1

namespace Buffer

/-- Everything that will be given, as far as there is something. -/
def all (b : Buffer) : List (Option (Nat × Char)) := b.queue ++ b.rest.map some

theorem nth_eq (b : Buffer) (n : Nat) : buffered.nth b n = b.all[n]?.join := by
  induction n generalizing b with
  | zero =>
    obtain ⟨queue, rest⟩ := b
    cases queue <;> cases rest <;> rfl
  | succ n ih =>
    obtain ⟨queue, rest⟩ := b
    show buffered.nth (next ⟨queue, rest⟩).2 n = _
    rw [ih]
    cases queue <;> cases rest <;> rfl

/-- Moving an element keeps everything, except that the end may be written down. -/
theorem all_pull (b : Buffer) (n : Nat) : b.pull.all[n]?.join = b.all[n]?.join := by
  obtain ⟨queue, rest⟩ := b
  cases rest with
  | nil =>
    show (queue ++ [none] ++ [])[n]?.join = (queue ++ [])[n]?.join
    rw [List.append_nil, List.append_nil, List.getElem?_append]
    split
    · rfl
    · next hn =>
      rw [List.getElem?_eq_none (Nat.not_lt.1 hn)]
      rcases n - queue.length with - | k <;> rfl
  | cons x rest =>
    show (queue ++ [some x] ++ rest.map some)[n]?.join = (queue ++ some x :: rest.map some)[n]?.join
    rw [List.append_assoc, List.singleton_append]

theorem all_iterate_pull (k : Nat) (b : Buffer) (n : Nat) :
    (pull^[k] b).all[n]?.join = b.all[n]?.join := by
  induction k generalizing b with
  | zero => rfl
  | succ k ih => rw [Function.iterate_succ_apply, ih, all_pull]

theorem length_iterate_pull (k : Nat) (b : Buffer) :
    (pull^[k] b).queue.length = b.queue.length + k := by
  induction k generalizing b with
  | zero => rfl
  | succ k ih =>
    have hone : b.pull.queue.length = b.queue.length + 1 := List.length_append
    rw [Function.iterate_succ_apply, ih, hone]
    omega

theorem look_eq (b : Buffer) (n : Nat) : (b.look n).1 = buffered.nth b n := by
  have hlength : n < (b.fill (n + 1)).queue.length := by
    rw [fill, length_iterate_pull]
    omega
  have hall : (b.fill (n + 1)).queue[n]? = (b.fill (n + 1)).all[n]? :=
    (List.getElem?_append_left hlength).symm
  rw [look, nth_eq, hall, fill, all_iterate_pull]

theorem nth_look (b : Buffer) (k n : Nat) : buffered.nth (b.look k).2 n = buffered.nth b n := by
  rw [nth_eq, nth_eq, look, fill, all_iterate_pull]

end Buffer

theorem lawful_buffered : buffered.Lawful where
  ofList xs n := by
    show buffered.nth (⟨[], xs⟩ : Buffer) n = _
    rw [Buffer.nth_eq]
    show (xs.map some)[n]?.join = xs[n]?
    rw [List.getElem?_map]
    cases xs[n]? <;> rfl
  peek_eq b := b.look_eq 0
  nth_peek b := b.nth_look 0
  peekSecond_eq b := b.look_eq 1
  nth_peekSecond b := b.nth_look 1

end Lookahead

end LoxLexer
