import TboxDiag.Lib.Bytes
import TboxDiag.Lib.Run

/-!
# Lib.Stream

One end of a byte stream. A program that owns the end reads and writes; `Io` is one such act with
its outcome, and `Io.Moves` says what it does to the bytes that are waiting to be read. A read for
`n` bytes that are all there delivers them; one that asks for more may come back short, when the
peer is gone. `Io.Prompt` says which acts come back at all while the peer is there and silent.

* `Wire`: a list of acts, on a given input, with what is left of it.
* `OpenWire`: the same, while the peer sends no more than this input and does not hang up.
* `taken`, `written`: the bytes read and the bytes sent, in order; `requested`, `offered`: the
  sizes of the reads and what is given to the writes; `Wire.taken_append`: what was
  read and what is left make up the input.
* `Wire.read_front`: reading a prefix of the input delivers that prefix.
-/

namespace Effects

inductive Io where
  /-- Asked for `n` bytes; `none` is an error. -/
  | read (n : Nat) (data : Option Bytes)
  /-- `sent` of the bytes `data` went out; negative is an error. -/
  | write (data : Bytes) (sent : Int)
  | other
  deriving DecidableEq, Repr

namespace Io

/-- The act takes the unread bytes from `input` to `rest`. -/
def Moves (input : Bytes) : Io → Bytes → Prop
  | .read n (some data), rest =>
    input = data ++ rest ∧ data.length ≤ n ∧ (n ≤ input.length → data.length = n)
  | .read n none, rest => rest = input ∧ input.length < n
  | _, rest => rest = input

/-- The act comes back although no more than `input` is sent and the connection stays open. A read
waits for all its bytes, and for one if it asks for none. -/
def Prompt (input : Bytes) : Io → Prop
  | .read n _ => max n 1 ≤ input.length
  | _ => True

def taken : Io → Bytes
  | .read _ (some data) => data
  | _ => []

def written : Io → Bytes
  | .write data sent => data.take sent.toNat
  | _ => []

/-- The bytes given to a write. -/
def offered : Io → Bytes
  | .write data _ => data
  | _ => []

/-- A write that sends all it was given. -/
def Whole : Io → Prop
  | .write data sent => sent = data.length
  | _ => True

theorem Moves.taken_append {input rest : Bytes} {io : Io} (h : io.Moves input rest) :
    io.taken ++ rest = input := by
  cases io with
  | read n data =>
    cases data with
    | none => exact h.1
    | some data => exact h.1.symm
  | write data sent => exact h
  | other => exact h

/-- A read of a prefix delivers it. -/
theorem Moves.read_prefix {a b rest : Bytes} {data : Option Bytes}
    (h : Io.Moves (a ++ b) (.read a.length data) rest) : data = some a ∧ rest = b := by
  cases data with
  | none =>
    obtain ⟨_, hlt⟩ := h
    rw [List.length_append] at hlt
    omega
  | some data =>
    obtain ⟨heq, _, hlen⟩ := h
    have hlen := hlen (by rw [List.length_append]; omega)
    obtain ⟨rfl, rfl⟩ := List.append_inj heq hlen.symm
    exact ⟨rfl, rfl⟩

end Io

/-- The bytes a list of acts reads. -/
def taken (ios : List Io) : Bytes := ios.flatMap Io.taken

/-- The bytes a list of acts sends. -/
def written (ios : List Io) : Bytes := ios.flatMap Io.written

/-- The sizes of the reads, which are those of the buffers they fill. -/
def requested (ios : List Io) : List Nat :=
  ios.filterMap fun
    | .read n _ => some n
    | _ => none

/-- What is given to each of the writes. -/
def offered (ios : List Io) : List Bytes :=
  ios.filterMap fun
    | .write data _ => some data
    | _ => none

@[simp] theorem taken_nil : taken [] = [] := rfl
@[simp] theorem taken_cons (io : Io) (ios : List Io) :
    taken (io :: ios) = io.taken ++ taken ios := rfl
@[simp] theorem taken_append (ios ios' : List Io) :
    taken (ios ++ ios') = taken ios ++ taken ios' := List.flatMap_append
@[simp] theorem written_nil : written [] = [] := rfl
@[simp] theorem written_cons (io : Io) (ios : List Io) :
    written (io :: ios) = io.written ++ written ios := rfl
@[simp] theorem written_append (ios ios' : List Io) :
    written (ios ++ ios') = written ios ++ written ios' := List.flatMap_append

theorem Io.Whole.written_eq {io : Io} (h : io.Whole) : io.written = io.offered := by
  cases io with
  | write data sent =>
    rw [Io.written, show sent = data.length from h, Int.toNat_natCast, List.take_length]
    rfl
  | _ => rfl

/-- What is given to whole writes is what is sent. -/
theorem written_whole {ios : List Io} (h : ∀ io ∈ ios, io.Whole) :
    written ios = ios.flatMap Io.offered := by
  induction ios with
  | nil => rfl
  | cons io ios ih =>
    rw [List.forall_mem_cons] at h
    rw [written_cons, List.flatMap_cons, h.1.written_eq, ih h.2]

/-- Acts that are neither reads nor writes. -/
def Idle (ios : List Io) : Prop := ∀ io ∈ ios, io = .other

theorem Idle.written {ios : List Io} (h : Idle ios) : written ios = [] := by
  refine List.flatMap_eq_nil_iff.mpr ?_
  intro io hio
  rw [h io hio]
  rfl

/-- The acts, one after the other, take the unread bytes from `input` to `rest`. -/
abbrev Wire (input : Bytes) (ios : List Io) (rest : Bytes) : Prop :=
  Run (fun input io rest => Io.Moves input io rest) input ios rest

/-- None of the acts waits for more than `input`. -/
abbrev OpenWire (input : Bytes) (ios : List Io) (rest : Bytes) : Prop :=
  Run (fun input io rest => io.Moves input rest ∧ io.Prompt input) input ios rest

theorem OpenWire.wire {input rest : Bytes} {ios : List Io} (h : OpenWire input ios rest) :
    Wire input ios rest := by
  induction h with
  | nil => exact .nil
  | snoc _ hm ih => exact ih.snoc hm.1

theorem Wire.taken_append {input rest : Bytes} {ios : List Io} (h : Wire input ios rest) :
    taken ios ++ rest = input := by
  induction h with
  | nil => rfl
  | snoc _ hm ih => rw [Effects.taken_append, taken_cons, taken_nil, List.append_nil,
      List.append_assoc, hm.taken_append, ih]

/-- Nothing but a read moves the stream. -/
theorem Wire.skip {input rest : Bytes} {io : Io} {ios : List Io} (h : Wire input (io :: ios) rest)
    (hio : ∀ n data, io ≠ .read n data) : Wire input ios rest := by
  obtain ⟨mid, hm, hrest⟩ := h.cons_inv
  cases io with
  | read n data => exact absurd rfl (hio n data)
  | write data sent =>
    obtain rfl : mid = input := hm
    exact hrest
  | other =>
    obtain rfl : mid = input := hm
    exact hrest

theorem Wire.done {input rest : Bytes} (h : Wire input [] rest) : rest = input := h.nil_inv

theorem Wire.idle {input rest : Bytes} {ios : List Io} (h : Wire input ios rest)
    (hidle : Idle ios) : rest = input := by
  induction h with
  | nil => rfl
  | snoc _ hm ih =>
    rename_i ls t u l _
    obtain rfl := hidle l (by simp)
    rw [show u = t from hm]
    exact ih fun io hio => hidle io (by simp [hio])

theorem Wire.drop_idle {input rest : Bytes} {ios ios' : List Io}
    (h : Wire input (ios ++ ios') rest) (hidle : Idle ios) : Wire input ios' rest := by
  obtain ⟨mid, hmid, hrest⟩ := h.split
  obtain rfl := Wire.idle hmid hidle
  exact hrest

/-- A read at the front of the input, for bytes that are there. -/
theorem Wire.read_front {a b rest : Bytes} {data : Option Bytes} {n : Nat} {ios : List Io}
    (h : Wire (a ++ b) (.read n data :: ios) rest) (hn : n = a.length) :
    data = some a ∧ Wire b ios rest := by
  subst hn
  obtain ⟨mid, hm, hrest⟩ := h.cons_inv
  obtain ⟨hdata, rfl⟩ := hm.read_prefix
  exact ⟨hdata, hrest⟩

end Effects
