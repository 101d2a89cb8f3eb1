import TableAccess.Client.Transaction

/-!
A server that keeps transactions with named marks, to compare clients with.

Opening a transaction, setting a mark in it, going back to the latest mark of a name, undoing
it and publishing it are the commands; every other statement is a write. A script says what
the server answers to each statement by its number. A statement that is answered with a failure
changes nothing, and so does a command that is illegal where it arrives.
-/

set_option autoImplicit false
set_option relaxedAutoImplicit false

namespace TableAccess.Reference

/-- What a statement asks of the transaction of its connection. -/
inductive Command
  | begin
  | commit
  | rollback
  | savepoint (name : String)
  | rollbackTo (name : String)
  | write
  deriving DecidableEq

/-- What follows a row of characters at the start of another one. -/
def rest? : List Char → List Char → Option (List Char)
  | [], text => some text
  | _ :: _, [] => none
  | k :: keyword, c :: text => if k = c then rest? keyword text else none

/-- What follows a keyword at the start of a text. -/
def argument? (keyword text : String) : Option String :=
  (rest? keyword.toList text.toList).map String.ofList

/-- The command of a text. What is no command of transactions is a write. -/
def Command.of (text : String) : Command :=
  match argument? "SAVEPOINT " text, argument? "ROLLBACK TO SAVEPOINT " text with
  | some name, _ => .savepoint name
  | none, some name => .rollbackTo name
  | none, none =>
    if text = Statement.begin then .begin
    else if text = Statement.commit then .commit
    else if text = Statement.rollback then .rollback
    else .write

private theorem rest?_append (keyword text : List Char) :
    rest? keyword (keyword ++ text) = some text := by
  induction keyword with
  | nil => rfl
  | cons k keyword ih =>
    simp only [List.cons_append, rest?, if_true]
    exact ih

private theorem argument?_append (keyword text : String) :
    argument? keyword (keyword ++ text) = some text := by
  simp only [argument?, String.toList_append, rest?_append, Option.map_some, String.ofList_toList]

/-- The keyword of a mark does not start the command that goes back to one. -/
private theorem argument?_savepoint_rollbackTo (name : String) :
    argument? "SAVEPOINT " (Statement.rollbackTo name) = none := by
  have mark : "SAVEPOINT ".toList = 'S' :: "AVEPOINT ".toList := by decide +kernel
  have back : "ROLLBACK TO SAVEPOINT ".toList = 'R' :: "OLLBACK TO SAVEPOINT ".toList := by
    decide +kernel
  have text : (Statement.rollbackTo name).toList =
      'R' :: ("OLLBACK TO SAVEPOINT ".toList ++ name.toList) := by
    rw [← List.cons_append, ← back]
    exact String.toList_append
  have unlike : ¬ 'S' = 'R' := by decide
  rw [argument?, mark, text, rest?, if_neg unlike, Option.map_none]

@[simp] theorem Command.of_begin : Command.of Statement.begin = .begin := by decide +kernel

@[simp] theorem Command.of_commit : Command.of Statement.commit = .commit := by decide +kernel

@[simp] theorem Command.of_rollback : Command.of Statement.rollback = .rollback := by
  decide +kernel

@[simp] theorem Command.of_savepoint (name : String) :
    Command.of (Statement.savepoint name) = .savepoint name := by
  simp only [Command.of, Statement.savepoint, argument?_append]

@[simp] theorem Command.of_rollbackTo (name : String) :
    Command.of (Statement.rollbackTo name) = .rollbackTo name := by
  have own : argument? "ROLLBACK TO SAVEPOINT " (Statement.rollbackTo name) = some name :=
    argument?_append "ROLLBACK TO SAVEPOINT " name
  simp only [Command.of, argument?_savepoint_rollbackTo, own]

/-- A statement that is no command of transactions. -/
structure Write where
  query : Query
  plain : Command.of query.sql = .write

/-- A mark in a transaction: its name, the number of the statement that set it, and what had
been written by then. -/
structure Mark where
  name : String
  number : Nat
  writes : List Query

/-- An open transaction: what has been written in it, and its marks, the latest first. -/
structure Transaction where
  writes : List Query
  marks : List Mark

/-- The marks from the latest one of a name on. -/
def Transaction.marksFrom (t : Transaction) (name : String) : List Mark :=
  t.marks.dropWhile fun m => m.name != name

def Transaction.latest? (t : Transaction) (name : String) : Option Mark :=
  (t.marksFrom name).head?

/-- The state of the server: how many statements it has been given, what has been published,
and the transaction that is open on the connection. -/
structure State where
  served : Nat
  published : List Query
  transaction : Option Transaction

namespace State

def idle (served : Nat) (published : List Query) : State := ⟨served, published, none⟩

/-- A transaction is opened outside of one, and all other commands belong inside of one. -/
def Legal (s : State) : Command → Prop
  | .begin => s.transaction = none
  | .write => True
  | .commit | .rollback | .savepoint _ | .rollbackTo _ => s.transaction ≠ none

/-- The state after one more statement that changes nothing else. -/
def passed (s : State) : State := { s with served := s.served + 1 }

/-- The state after a statement has succeeded, unless it can not. -/
def after? (s : State) (q : Query) : Option State :=
  match Command.of q.sql, s.transaction with
  | .begin, none => some { s.passed with transaction := some ⟨[], []⟩ }
  | .begin, some _ => none
  | .commit, some t =>
    some { s.passed with published := s.published ++ t.writes, transaction := none }
  | .rollback, some _ => some { s.passed with transaction := none }
  | .savepoint name, some t =>
    some { s.passed with
      transaction := some { t with marks := ⟨name, s.served, t.writes⟩ :: t.marks } }
  | .rollbackTo name, some t =>
    match t.marksFrom name with
    | [] => none
    | mark :: older => some { s.passed with transaction := some ⟨mark.writes, mark :: older⟩ }
  | .write, some t =>
    some { s.passed with transaction := some { t with writes := t.writes ++ [q] } }
  | .write, none => some { s.passed with published := s.published ++ [q] }
  | _, none => none

end State

/-- What the server answers: whether it gives a connection, and what comes of each statement,
by its number. -/
structure Script (κ : Type) where
  dialect : Dialect
  connection : Except Failure κ
  answer : Nat → Query → Answer

namespace Script

variable {κ : Type}

/-- The failure of a command that is illegal where it arrives. -/
def refusal : Failure := .reported "the command is illegal in this state"

def serve (o : Script κ) (q : Query) (s : State) : Answer × State :=
  let answer := o.answer s.served q
  match answer.affected, s.after? q with
  | .error _, _ => (answer, s.passed)
  | .ok _, some s => (answer, s)
  | .ok _, none => ([.error refusal], s.passed)

/-- The server that a script describes. A connection keeps its transaction when it is handed
back. -/
def server (o : Script κ) : Backend State κ where
  dialect := o.dialect
  acquire s := (o.connection, s)
  run _ := o.serve
  release _ _ s := s
  drain s := (.ok (), s)

/-- The server answers a statement with a failure. -/
def Fails (o : Script κ) (s : State) (q : Query) : Prop :=
  ∃ f, (o.answer s.served q).affected = .error f

/-- A statement that is possible either fails and changes nothing but the number of statements, or
succeeds. -/
theorem serve_cases (o : Script κ) {q : Query} {s next : State} (possible : s.after? q = some next) :
    (∃ answer f, o.serve q s = (answer, s.passed) ∧ answer.affected = .error f ∧ o.Fails s q) ∨
    (∃ answer n, o.serve q s = (answer, next) ∧ answer.affected = .ok n ∧ ¬ o.Fails s q) := by
  cases answered : (o.answer s.served q).affected with
  | error f => exact .inl ⟨_, f, by simp only [serve, answered], answered, f, answered⟩
  | ok n =>
    refine .inr ⟨_, n, by simp only [serve, answered, possible], answered, ?_⟩
    rintro ⟨f, failed⟩
    rw [answered] at failed
    cases failed

end Script

end TableAccess.Reference
