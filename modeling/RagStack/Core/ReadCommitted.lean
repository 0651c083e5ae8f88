import Mathlib.Data.Fintype.Basic
import Mathlib.Data.List.Basic
import Mathlib.Logic.Function.Basic
import Mathlib.Algebra.GroupWithZero.Nat

/-!
# Transactions under READ COMMITTED

A relational database and the clients that use it at the same time.  A client is a program of
statements, and between two statements of one client any number of steps of others may happen. The
races that such clients run into are mostly of one kind: a row is read, somebody else commits, and
the row is written on the strength of what was read.  So the model has to let exactly those
interleavings happen that the isolation level allows, no fewer, since a theorem about fewer would
miss races, and no more, since programs rely on the locks and the checks of the database.  What the
isolation level promises is built into the step function.


* A statement sees what is committed when it starts and what its own transaction wrote.
* A row that a transaction wrote is locked until that transaction ends.
* An UPDATE finds its rows when it starts and then visits them in any order.  Each visit waits for
  the lock and checks the condition again, on the version that is committed by then.
* Foreign keys, unique indexes and CHECKs are checked with every write.  Nobody adds a reference to
  a row that another transaction is deleting, and nobody deletes a row to which another transaction
  is adding a reference.  A row that clashes with one that another transaction has written or is
  changing waits for that transaction.
* A transaction that is rolled back, rejected or aborted leaves nothing.

What is stored is a parameter.  `Row` is the sum of the rows of all tables, a `Schema` says what
refers to what, and the labels of type `L` name the statements that have been executed.
-/

namespace RagStack

/-! ## The database

A database is a clock and a function from keys to rows.  The rows of all tables live in one
function: a foreign key then is a reference from key to key, and which tables it connects is up to
the schema. -/

/-- A generated key, by its number in the order of generation.  Programs only ever compare keys,
so nothing else about the generated value matters. -/
abbrev Key : Type := ℕ

/-- What is committed, and how many keys have been generated.  The counter is not undone by a
rollback. -/
structure Db (Row : Type) where
  clock : ℕ
  rows : Key → Option Row

/-- What a transaction wrote: new versions of rows (`some (some r)`) and deletions (`some none`). -/
abbrev Writes (Row : Type) : Type := Key → Option (Option Row)

namespace Db

variable {Row : Type}

/-- The database with these rows, in the order of their keys; `none` is a row that was deleted. -/
def ofRows (rows : List (Option Row)) : Db Row := ⟨rows.length, fun k => rows[k]?.join⟩

/-- The rows once some writes are committed. -/
def apply (db : Db Row) (w : Writes Row) : Db Row :=
  { db with rows := fun k => (w k).getD (db.rows k) }

def tick (db : Db Row) : Db Row := { db with clock := db.clock + 1 }

/-- The keys of the rows a condition holds of. -/
def keysWhere (db : Db Row) (p : Key → Row → Bool) : List Key :=
  (List.range db.clock).filter fun k => (db.rows k).any (p k)

@[simp] theorem clock_apply (db : Db Row) (w : Writes Row) : (db.apply w).clock = db.clock := rfl

@[simp] theorem clock_tick (db : Db Row) : db.tick.clock = db.clock + 1 := rfl

@[simp] theorem rows_tick (db : Db Row) : db.tick.rows = db.rows := rfl

@[simp] theorem apply_nothing (db : Db Row) : db.apply (fun _ => none) = db := rfl

theorem rows_ofRows {rows : List (Option Row)} {k : Key} {r : Row} :
    (ofRows rows).rows k = some r ↔ rows[k]? = some (some r) :=
  Option.join_eq_some_iff

theorem lt_clock_ofRows (rows : List (Option Row)) (k : Key) (r : Row)
    (h : (ofRows rows).rows k = some r) : k < (ofRows rows).clock :=
  (List.getElem?_eq_some_iff.mp (rows_ofRows.mp h)).1

/-- A row that was not written is the committed one. -/
theorem rows_apply_none {db : Db Row} {w : Writes Row} {k : Key} (h : w k = none) :
    (db.apply w).rows k = db.rows k := by
  show (w k).getD (db.rows k) = _
  rw [h]
  rfl

/-- A row that was written is what was written. -/
theorem rows_apply_some {db : Db Row} {w : Writes Row} {k : Key} {v : Option Row}
    (h : w k = some v) : (db.apply w).rows k = v := by
  show (w k).getD (db.rows k) = _
  rw [h]
  rfl

theorem rows_apply_update_self (db : Db Row) (w : Writes Row) (k : Key) (v : Option Row) :
    (db.apply (Function.update w k (some v))).rows k = v :=
  rows_apply_some (Function.update_self _ _ _)

theorem rows_apply_update_of_ne (db : Db Row) (w : Writes Row) {k k' : Key} (h : k' ≠ k)
    (v : Option (Option Row)) :
    (db.apply (Function.update w k v)).rows k' = (db.apply w).rows k' := by
  show (Function.update w k v k').getD _ = (w k').getD _
  rw [Function.update_of_ne h]

theorem mem_keysWhere {db : Db Row} {p : Key → Row → Bool} {k : Key} :
    k ∈ db.keysWhere p ↔ k < db.clock ∧ ∃ r, db.rows k = some r ∧ p k r = true := by
  simp only [keysWhere]
  rw [List.mem_filter, List.mem_range, Option.any_eq_true]

end Db

/-- The tables, as far as the database itself enforces something about them. -/
structure Schema (Row : Type) where
  /-- The foreign keys of a row that are set, each with the rows it may point to. -/
  references : Row → List (Key × (Row → Bool))
  /-- Those that were declared `ON DELETE CASCADE`. -/
  cascades : Row → List (Key × (Row → Bool))
  /-- `ON DELETE SET NULL`: the row without its references to deleted rows. -/
  setNull : (Key → Option Row) → Row → Row
  /-- How many foreign keys a cascade can follow. -/
  depth : ℕ
  /-- Two rows that a unique index does not allow together. -/
  clash : Row → Row → Bool
  /-- The CHECK constraints of its table. -/
  check : Row → Bool := fun _ => true

namespace Schema

variable {Row : Type} (S : Schema Row) (view : Db Row)

/-- The rows that go when the row `k` is deleted, following at most so many foreign keys. -/
def doomed (k : Key) : ℕ → Key → Bool
  | 0, k' => k' == k
  | n + 1, k' => doomed k n k' || (view.rows k').any fun r => (S.cascades r).any fun ref =>
      doomed k n ref.1 && (view.rows ref.1).any ref.2

def gone (k k' : Key) : Option Row := if S.doomed view k S.depth k' then view.rows k' else none

/-- A row has a reference to a deleted row. -/
def losesReference (k : Key) (r : Row) : Bool :=
  (S.references r).any fun ref => (S.gone view k ref.1).any ref.2

/-- `DELETE` of the row `k` with its referential actions. -/
def erase (k : Key) : Writes Row := fun k' =>
  (view.rows k').bind fun r =>
    if S.doomed view k S.depth k' then some none
    else if S.losesReference view k r then some (some (S.setNull (S.gone view k) r))
    else none

/-- Every foreign key of the row points to a row. -/
def ParentsExist (r : Row) : Prop := ∀ ref ∈ S.references r, (view.rows ref.1).any ref.2 = true

/-- No other row clashes with it. -/
def Unique (k : Key) (r : Row) : Prop :=
  ∀ k' < view.clock, k' ≠ k → (view.rows k').all (fun r' => !S.clash r r') = true

/-- The constraints that are checked when the row is written. -/
def Admits (k : Key) (r : Row) : Prop :=
  S.ParentsExist view r ∧ S.Unique view k r ∧ S.check r = true

instance (r : Row) : Decidable (S.ParentsExist view r) :=
  inferInstanceAs (Decidable (∀ ref ∈ S.references r, _))

instance (k : Key) (r : Row) : Decidable (S.Unique view k r) :=
  inferInstanceAs (Decidable (∀ k' < view.clock, k' ≠ k → _))

instance (k : Key) (r : Row) : Decidable (S.Admits view k r) :=
  inferInstanceAs (Decidable (_ ∧ _ ∧ _))

end Schema

/-! ## Programs and processes

A statement is a constructor whose last argument is what the client does with the result.  `update`
and `delete` take their conditions as predicates, so that one statement of the program is one
statement here, however many rows it concerns.  An UPDATE is the only statement that takes more than
one step, because the rows it has found can change before it gets to them. -/

/-- What a client does.  An UPDATE and a DELETE report how many rows they affected. -/
inductive Prog (Row L α : Type) where
  | done (a : α)
  /-- The call failed: the connection was lost, or a constraint was violated. -/
  | failed
  | read (label : L) (next : Db Row → Prog Row L α)
  | insert (label : L) (row : Key → Row) (next : Key → Prog Row L α)
  | update (label : L) (p : Key → Row → Bool) (f : Row → Row) (next : ℕ → Prog Row L α)
  | delete (label : L) (p : Row → Bool) (k : Key) (next : ℕ → Prog Row L α)
  | commit (label : L) (next : Prog Row L α)
  | rollback (next : Prog Row L α)

def Prog.answer {Row L α : Type} : Prog Row L α → Option α
  | .done a => some a
  | _ => none

theorem Prog.answer_eq_some {Row L α : Type} {prog : Prog Row L α} {a : α} :
    prog.answer = some a ↔ prog = .done a := by
  cases prog <;> simp [answer]

/-- An UPDATE in progress: the rows it has not visited yet, and how many it has changed. -/
structure Scan where
  todo : List Key
  count : ℕ

/-- A client: what is left to do, what its transaction wrote, the UPDATE in progress, and the
statements executed so far, newest first. -/
structure Proc (Row L α : Type) where
  prog : Prog Row L α
  writes : Writes Row
  scan : Option Scan
  log : List L

namespace Proc

variable {Row L α : Type}

/-- A client before its first statement. -/
def start (prog : Prog Row L α) : Proc Row L α := ⟨prog, fun _ => none, none, []⟩

/-- A client whose transaction was thrown away. -/
def fail (p : Proc Row L α) : Proc Row L α := ⟨.failed, fun _ => none, none, p.log⟩

end Proc

/-- The database and its clients.  What a client has written and not committed is with the client,
so the database holds what everybody can see. -/
structure Sys (n : ℕ) (Row L α : Type) where
  db : Db Row
  procs : Fin n → Proc Row L α

/-- What happens next to a client.  Which of these are possible depends on where the client is, and
on the locks of the others. -/
inductive Action where
  /-- It starts its next statement; an UPDATE that has visited all its rows ends. -/
  | Proceed
  /-- The UPDATE in progress visits a row. -/
  | Visit (k : Key)
  /-- The environment takes its connection away. -/
  | Abort
  deriving DecidableEq

/-! A schedule of two, three or four clients names them by numerals. -/

lemma neZero_two : NeZero 2 := ⟨two_ne_zero⟩

lemma neZero_three : NeZero 3 := ⟨three_ne_zero⟩

lemma neZero_four : NeZero 4 := ⟨four_ne_zero⟩

namespace Sys

variable {n : ℕ} {Row L α : Type} (S : Schema Row) (sys : Sys n Row L α) (i : Fin n)

def start (db : Db Row) (progs : Fin n → Prog Row L α) : Sys n Row L α :=
  ⟨db, fun i => .start (progs i)⟩

/-- What a statement of client `i` sees. -/
def view : Db Row := sys.db.apply (sys.procs i).writes

/-- Client `i` becomes `p`. -/
def become (p : Proc Row L α) : Sys n Row L α := { sys with procs := Function.update sys.procs i p }

@[simp] theorem db_become (p : Proc Row L α) : (sys.become i p).db = sys.db := rfl

@[simp] theorem procs_become_self (p : Proc Row L α) : (sys.become i p).procs i = p :=
  Function.update_self _ _ _

theorem procs_become_of_ne (p : Proc Row L α) {j : Fin n} (hj : j ≠ i) :
    (sys.become i p).procs j = sys.procs j :=
  Function.update_of_ne hj _ _

/-! ## Locks

The locks are not stored.  A row is locked by the client that has written it, from the write to the
end of the transaction, and this can be read off the pending writes of the clients.  Foreign keys
and unique indexes make a client wait in addition for transactions whose outcome decides whether its
own write is allowed. -/

/-- No other client has written the row. -/
def Unlocked (k : Key) : Prop := ∀ j, j ≠ i → ((sys.procs j).writes k).isNone = true

/-- No other client is deleting a row that this one refers to. -/
def ParentsStay (r : Row) : Prop :=
  ∀ ref ∈ S.references r, ∀ j, j ≠ i → ((sys.procs j).writes ref.1).all Option.isSome = true

/-- No other client has written a row that clashes with this one. -/
def UniqueStays (k : Key) (r : Row) : Prop :=
  ∀ j, j ≠ i → ∀ k' < sys.db.clock, k' ≠ k →
    ((sys.procs j).writes k').join.all (fun r' => !S.clash r r') = true

/-- Client `i` can write the row now. -/
def Unhindered (k : Key) (r : Row) : Prop :=
  sys.Unlocked i k ∧ sys.ParentsStay S i r ∧ sys.UniqueStays S i k r

/-- The row clashes with no row that another client is changing, or violates a CHECK anyway. -/
def Settled (k : Key) (r : Row) : Prop :=
  S.check r = true → ∀ k' < sys.db.clock, k' ≠ k →
    ((sys.view i).rows k').any (S.clash r) = true → sys.Unlocked i k'

/-- No other client is adding a reference to a row that goes with `k`. -/
def Unreferenced (k : Key) : Prop :=
  ∀ j, j ≠ i → ∀ k' < sys.db.clock, ((sys.procs j).writes k').join.all (fun r =>
    (S.references r).all fun ref => !(S.erase (sys.view i) k ref.1 matches some none)) = true

/-- Client `i` can delete the row `k` now. -/
def Erasable (k : Key) : Prop :=
  (∀ k' < sys.db.clock, (S.erase (sys.view i) k k').isSome = true → sys.Unlocked i k')
    ∧ (∀ k' < sys.db.clock, ∀ r ∈ (S.erase (sys.view i) k k').join, sys.ParentsStay S i r)
    ∧ sys.Unreferenced S i k

instance (k : Key) : Decidable (sys.Unlocked i k) :=
  inferInstanceAs (Decidable (∀ j, j ≠ i → _))

instance (r : Row) : Decidable (sys.ParentsStay S i r) :=
  inferInstanceAs (Decidable (∀ ref ∈ S.references r, ∀ j, j ≠ i → _))

instance (k : Key) (r : Row) : Decidable (sys.UniqueStays S i k r) :=
  inferInstanceAs (Decidable (∀ j, j ≠ i → ∀ k' < sys.db.clock, k' ≠ k → _))

instance (k : Key) (r : Row) : Decidable (sys.Unhindered S i k r) :=
  inferInstanceAs (Decidable (_ ∧ _ ∧ _))

instance (k : Key) (r : Row) : Decidable (sys.Settled S i k r) :=
  inferInstanceAs (Decidable (_ → ∀ k' < sys.db.clock, k' ≠ k → _ → _))

instance (k : Key) : Decidable (sys.Unreferenced S i k) :=
  inferInstanceAs (Decidable (∀ j, j ≠ i → ∀ k' < sys.db.clock, _))

instance (k : Key) : Decidable (sys.Erasable S i k) :=
  inferInstanceAs (Decidable ((∀ k' < sys.db.clock, _ → _) ∧ (∀ k' < sys.db.clock, _) ∧ _))

/-! ## Steps

A step is a partial function: it is undefined where the client has to wait, and where it has nothing
to do.  A run is any sequence of steps that are defined.  Nothing is assumed about fairness, so
theorems about runs are theorems about every prefix of every execution. -/

/-- Client `i` writes the row, and goes on as `p`. -/
def write (k : Key) (v : Option Row) (p : Proc Row L α) : Sys n Row L α :=
  sys.become i { p with writes := Function.update p.writes k (some v) }

/-- The next statement of client `i`; `none` where it has to wait, or has nothing to do. -/
def proceed : Option (Sys n Row L α) :=
  let me := sys.procs i
  match me.scan, me.prog with
  | none, .read label next =>
      some (sys.become i { me with prog := next (sys.view i), log := label :: me.log })
  | none, .insert label row next =>
      let k := sys.db.clock
      if S.Admits (sys.view i) k (row k) then
        if sys.Unhindered S i k (row k) then
          some ({ sys with db := sys.db.tick }.write i k (some (row k))
            { me with prog := next k, log := label :: me.log })
        else none
      else if sys.Settled S i k (row k) then some (sys.become i me.fail)
      else none
  | none, .update label p _ _ =>
      some (sys.become i
        { me with scan := some ⟨(sys.view i).keysWhere p, 0⟩, log := label :: me.log })
  | some ⟨[], count⟩, .update _ _ _ next =>
      some (sys.become i { me with prog := next count, scan := none })
  | none, .delete label p k next =>
      if ((sys.view i).rows k).any p then
        if sys.Erasable S i k then
          some (sys.become i { me with
            prog := next 1
            writes := fun k' => (S.erase (sys.view i) k k').orElse fun _ => me.writes k'
            log := label :: me.log })
        else none
      else some (sys.become i { me with prog := next 0, log := label :: me.log })
  | none, .commit label next =>
      some { db := sys.view i
             procs := Function.update sys.procs i ⟨next, fun _ => none, none, label :: me.log⟩ }
  | none, .rollback next =>
      some (sys.become i { me with prog := next, writes := fun _ => none })
  | _, _ => none

/-- The UPDATE of client `i` visits the row `k`. -/
def visit (k : Key) : Option (Sys n Row L α) :=
  let me := sys.procs i
  match me.scan, me.prog with
  | some ⟨todo, count⟩, .update _ p f _ =>
      if k ∈ todo ∧ sys.Unlocked i k then
        match (sys.view i).rows k with
        | some r =>
            if p k r then
              if S.Admits (sys.view i) k (f r) then
                if sys.Unhindered S i k (f r) then
                  some (sys.write i k (some (f r))
                    { me with scan := some ⟨todo.erase k, count + 1⟩ })
                else none
              else if sys.Settled S i k (f r) then some (sys.become i me.fail)
              else none
            else some (sys.become i { me with scan := some ⟨todo.erase k, count⟩ })
        | none => some (sys.become i { me with scan := some ⟨todo.erase k, count⟩ })
      else none
  | _, _ => none

/-- One step of client `i`. -/
def step : Action → Option (Sys n Row L α)
  | .Proceed => sys.proceed S i
  | .Visit k => sys.visit S i k
  | .Abort =>
      match (sys.procs i).prog with
      | .done _ | .failed => none
      | _ => some (sys.become i (sys.procs i).fail)

/-- A run: who does what, one after the other. -/
def run (sys : Sys n Row L α) : List (Fin n × Action) → Option (Sys n Row L α)
  | [] => some sys
  | (i, a) :: rest => (sys.step S i a).bind fun sys' => run sys' rest

/-- A condition on the steps of a run: it holds of each step in the state in which it is taken. -/
def AlongRun (P : Sys n Row L α → Fin n → Action → Prop) (sys : Sys n Row L α) :
    List (Fin n × Action) → Prop
  | [] => True
  | (i, a) :: rest => P sys i a ∧ ∀ sys' ∈ sys.step S i a, AlongRun P sys' rest

instance decidableAlongRun (P : Sys n Row L α → Fin n → Action → Prop)
    [∀ sys i a, Decidable (P sys i a)] (sys : Sys n Row L α) :
    ∀ acts, Decidable (AlongRun S P sys acts)
  | [] => inferInstanceAs (Decidable True)
  | (i, a) :: rest =>
      have : ∀ sys', Decidable (AlongRun S P sys' rest) := fun sys' => decidableAlongRun P sys' rest
      inferInstanceAs (Decidable (P sys i a ∧ ∀ sys' ∈ sys.step S i a, AlongRun S P sys' rest))

variable {S} in
/-- A condition that follows from another one in every state. -/
theorem AlongRun.imp {P Q : Sys n Row L α → Fin n → Action → Prop}
    (hPQ : ∀ sys i a, P sys i a → Q sys i a) {sys : Sys n Row L α} {acts : List (Fin n × Action)}
    (h : AlongRun S P sys acts) : AlongRun S Q sys acts := by
  induction acts generalizing sys with
  | nil => trivial
  | cons act acts ih => exact ⟨hPQ _ _ _ h.1, fun sys' hsys' => ih (h.2 sys' hsys')⟩

/-- A condition that holds in every state. -/
theorem AlongRun.of_forall {P : Sys n Row L α → Fin n → Action → Prop} (h : ∀ sys i a, P sys i a)
    (sys : Sys n Row L α) (acts : List (Fin n × Action)) : AlongRun S P sys acts := by
  induction acts generalizing sys with
  | nil => trivial
  | cons act acts ih => exact ⟨h _ _ _, fun sys' _ => ih sys'⟩

/-- Several runs one after the other. -/
theorem run_append (sys : Sys n Row L α) (acts more : List (Fin n × Action)) :
    sys.run S (acts ++ more) = (sys.run S acts).bind fun sys' => sys'.run S more := by
  induction acts generalizing sys with
  | nil => rfl
  | cons act acts ih =>
      rw [List.cons_append, run, run, Option.bind_assoc]
      congr 1
      funext sys'
      exact ih sys'

end Sys

/-! ## What a step can be

The step function is unfolded here and nowhere else.  `Moved` lists its cases, each with the
conditions under which the client takes it, and every invariant of every system is proved by cases
on it. -/

/-- **The cases of a step**, each with what the client knows about it. -/
inductive Moved {n : ℕ} {Row L α : Type} (S : Schema Row) (sys : Sys n Row L α) (i : Fin n) :
    Action → Sys n Row L α → Prop where
  | read {label : L} {next : Db Row → Prog Row L α} (hscan : (sys.procs i).scan = none)
      (hprog : (sys.procs i).prog = .read label next) :
      Moved S sys i .Proceed (sys.become i
        ⟨next (sys.view i), (sys.procs i).writes, none, label :: (sys.procs i).log⟩)
  | insert {label : L} {row : Key → Row} {next : Key → Prog Row L α}
      (hscan : (sys.procs i).scan = none) (hprog : (sys.procs i).prog = .insert label row next)
      (hadmits : S.Admits (sys.view i) sys.db.clock (row sys.db.clock))
      (hunhindered : sys.Unhindered S i sys.db.clock (row sys.db.clock)) :
      Moved S sys i .Proceed (Sys.become { sys with db := sys.db.tick } i
        ⟨next sys.db.clock,
          Function.update (sys.procs i).writes sys.db.clock (some (some (row sys.db.clock))), none,
          label :: (sys.procs i).log⟩)
  | insertRejected {label : L} {row : Key → Row} {next : Key → Prog Row L α}
      (hscan : (sys.procs i).scan = none) (hprog : (sys.procs i).prog = .insert label row next)
      (hrejects : ¬ S.Admits (sys.view i) sys.db.clock (row sys.db.clock))
      (hsettled : sys.Settled S i sys.db.clock (row sys.db.clock)) :
      Moved S sys i .Proceed (sys.become i (sys.procs i).fail)
  | updateStart {label : L} {p : Key → Row → Bool} {f : Row → Row} {next : ℕ → Prog Row L α}
      (hscan : (sys.procs i).scan = none) (hprog : (sys.procs i).prog = .update label p f next) :
      Moved S sys i .Proceed (sys.become i ⟨.update label p f next, (sys.procs i).writes,
        some ⟨(sys.view i).keysWhere p, 0⟩, label :: (sys.procs i).log⟩)
  | updateEnd {label : L} {p : Key → Row → Bool} {f : Row → Row} {next : ℕ → Prog Row L α}
      {count : ℕ} (hscan : (sys.procs i).scan = some ⟨[], count⟩)
      (hprog : (sys.procs i).prog = .update label p f next) :
      Moved S sys i .Proceed
        (sys.become i ⟨next count, (sys.procs i).writes, none, (sys.procs i).log⟩)
  | delete {label : L} {p : Row → Bool} {k : Key} {next : ℕ → Prog Row L α}
      (hscan : (sys.procs i).scan = none) (hprog : (sys.procs i).prog = .delete label p k next)
      (hfound : ((sys.view i).rows k).any p = true) (herasable : sys.Erasable S i k) :
      Moved S sys i .Proceed (sys.become i ⟨next 1,
        fun k' => (S.erase (sys.view i) k k').orElse fun _ => (sys.procs i).writes k', none,
        label :: (sys.procs i).log⟩)
  | deleteNothing {label : L} {p : Row → Bool} {k : Key} {next : ℕ → Prog Row L α}
      (hscan : (sys.procs i).scan = none) (hprog : (sys.procs i).prog = .delete label p k next)
      (hmissing : ((sys.view i).rows k).any p = false) :
      Moved S sys i .Proceed (sys.become i
        ⟨next 0, (sys.procs i).writes, none, label :: (sys.procs i).log⟩)
  | commit {label : L} {next : Prog Row L α} (hscan : (sys.procs i).scan = none)
      (hprog : (sys.procs i).prog = .commit label next) :
      Moved S sys i .Proceed (Sys.become { sys with db := sys.view i } i
        ⟨next, fun _ => none, none, label :: (sys.procs i).log⟩)
  | rollback {next : Prog Row L α} (hscan : (sys.procs i).scan = none)
      (hprog : (sys.procs i).prog = .rollback next) :
      Moved S sys i .Proceed
        (sys.become i ⟨next, fun _ => none, none, (sys.procs i).log⟩)
  | hit {label : L} {p : Key → Row → Bool} {f : Row → Row} {next : ℕ → Prog Row L α}
      {scan : Scan} {k : Key} {r : Row} (hscan : (sys.procs i).scan = some scan)
      (hprog : (sys.procs i).prog = .update label p f next) (hk : k ∈ scan.todo)
      (hr : (sys.view i).rows k = some r) (hp : p k r = true)
      (hadmits : S.Admits (sys.view i) k (f r)) (hunhindered : sys.Unhindered S i k (f r)) :
      Moved S sys i (.Visit k) (sys.become i ⟨.update label p f next,
        Function.update (sys.procs i).writes k (some (some (f r))),
        some ⟨scan.todo.erase k, scan.count + 1⟩, (sys.procs i).log⟩)
  | hitRejected {label : L} {p : Key → Row → Bool} {f : Row → Row} {next : ℕ → Prog Row L α}
      {scan : Scan} {k : Key} {r : Row} (hscan : (sys.procs i).scan = some scan)
      (hprog : (sys.procs i).prog = .update label p f next) (hk : k ∈ scan.todo)
      (hr : (sys.view i).rows k = some r) (hp : p k r = true)
      (hrejects : ¬ S.Admits (sys.view i) k (f r)) (hsettled : sys.Settled S i k (f r)) :
      Moved S sys i (.Visit k) (sys.become i (sys.procs i).fail)
  | miss {label : L} {p : Key → Row → Bool} {f : Row → Row} {next : ℕ → Prog Row L α}
      {scan : Scan} {k : Key} (hscan : (sys.procs i).scan = some scan)
      (hprog : (sys.procs i).prog = .update label p f next) (hk : k ∈ scan.todo)
      (hr : ∀ r, (sys.view i).rows k = some r → p k r = false) :
      Moved S sys i (.Visit k) (sys.become i ⟨.update label p f next, (sys.procs i).writes,
        some ⟨scan.todo.erase k, scan.count⟩, (sys.procs i).log⟩)
  | abort (hdone : ∀ a, (sys.procs i).prog ≠ .done a) :
      Moved S sys i .Abort (sys.become i (sys.procs i).fail)

namespace Sys

variable {n : ℕ} {Row L α : Type} {S : Schema Row} {sys sys' : Sys n Row L α} {i : Fin n}

lemma proceed_moved (h : sys.proceed S i = some sys') : Moved S sys i .Proceed sys' := by
  unfold proceed at h
  simp only at h
  split at h
  · cases h
    rename_i hscan hprog
    rw [hscan]
    exact .read hscan hprog
  · rename_i hscan hprog
    split at h
    · rename_i hadmits
      split at h
      · rename_i hunhindered
        cases h
        simp only [write, become]
        rw [hscan]
        exact .insert hscan hprog hadmits hunhindered
      · cases h
    · rename_i hrejects
      split at h
      · rename_i hsettled
        cases h
        exact .insertRejected hscan hprog hrejects hsettled
      · cases h
  · cases h
    rename_i hscan hprog
    rw [hprog]
    exact .updateStart hscan hprog
  · cases h
    rename_i hscan hprog
    exact .updateEnd hscan hprog
  · rename_i hscan hprog
    split at h
    · rename_i hfound
      split at h
      · rename_i herasable
        cases h
        rw [hscan]
        exact .delete hscan hprog hfound herasable
      · cases h
    · rename_i hmissing
      cases h
      rw [hscan]
      exact .deleteNothing hscan hprog (Bool.eq_false_of_not_eq_true hmissing)
  · cases h
    rename_i hscan hprog
    exact .commit hscan hprog
  · cases h
    rename_i hscan hprog
    rw [hscan]
    exact .rollback hscan hprog
  · cases h

lemma visit_moved {k : Key} (h : sys.visit S i k = some sys') : Moved S sys i (.Visit k) sys' := by
  unfold visit at h
  simp only at h
  split at h
  · rename_i todo count _ p f next hscan hprog
    split at h
    · rename_i hk
      split at h
      · rename_i r hr
        split at h
        · rename_i hp
          split at h
          · rename_i hadmits
            split at h
            · rename_i hunhindered
              cases h
              simp only [write]
              rw [hprog]
              exact .hit hscan hprog hk.1 hr hp hadmits hunhindered
            · cases h
          · rename_i hrejects
            split at h
            · rename_i hsettled
              cases h
              exact .hitRejected hscan hprog hk.1 hr hp hrejects hsettled
            · cases h
        · rename_i hp
          cases h
          rw [hprog]
          refine .miss hscan hprog hk.1 fun r' hr' => ?_
          cases hr.symm.trans hr'
          exact Bool.eq_false_of_not_eq_true hp
      · rename_i hr
        cases h
        rw [hprog]
        refine .miss hscan hprog hk.1 fun r' hr' => ?_
        cases hr.symm.trans hr'
    · cases h
  · cases h

/-- **Inversion of a step.**  All that a step can do, with the guards under which it does it. -/
theorem step_moved {a : Action} (h : sys.step S i a = some sys') : Moved S sys i a sys' := by
  cases a with
  | Proceed => exact proceed_moved h
  | Visit k => exact visit_moved h
  | Abort =>
      rw [step] at h
      split at h
      · cases h
      · cases h
      · rename_i hdone _
        cases h
        exact .abort hdone

/-- A step of one client leaves the others where they are. -/
theorem procs_of_moved {a : Action} (h : Moved S sys i a sys') {j : Fin n} (hj : j ≠ i) :
    sys'.procs j = sys.procs j := by
  cases h <;> exact procs_become_of_ne _ _ _ hj

/-- So does a run in which they take no step. -/
theorem run_procs {acts : List (Fin n × Action)} (h : sys.run S acts = some sys')
    {j : Fin n} (hj : ∀ act ∈ acts, j ≠ act.1) : sys'.procs j = sys.procs j := by
  induction acts generalizing sys with
  | nil =>
      cases h
      rfl
  | cons act acts ih =>
      obtain ⟨mid, hstep, hrest⟩ := Option.bind_eq_some_iff.mp h
      rw [ih hrest fun act' hact' => hj act' (List.mem_cons_of_mem _ hact')]
      exact procs_of_moved (step_moved hstep) (hj act List.mem_cons_self)

end Sys

/-! ## Clients that do not fail by themselves

A client fails if its connection is lost, if a constraint rejects its write, or if its program says
so.  Programs without an UPDATE whose writes are always admitted only leave the first of these. -/

namespace Sys

variable {n : ℕ} {Row L α : Type} {S : Schema Row} {sys sys' : Sys n Row L α} {i : Fin n}

end Sys

end RagStack
