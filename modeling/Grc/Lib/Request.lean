import Grc.Lib.Tx

/-! A request in one transaction, under read committed: others commit between its statements, and what it wrote itself is committed with its
answer unless the transaction was marked to roll back. -/
namespace Grc.Lib

universe u
variable {Rows Refused α β : Type u}

/-- What a view raises: a problem to answer as it is, a failed validation, a violated unique key, or anything else. -/
inductive Raised (Refused : Type u) where
  | problem (refused : Refused)
  | validation (refused : Refused)
  | integrity
  | unforeseen

/-- The transaction of a request: what others have committed and will commit before each of its next statements, and its own writes. -/
structure Session (Rows : Type u) where
  committed : Rows
  arriving : List (Rows → Rows)
  written : List (Rows → Rows) := []
  marked : Bool := false

namespace Session

/-- What a statement reads: what others committed, under the transaction's own writes. -/
def rows (session : Session Rows) : Rows := session.written.foldl (fun rows write => write rows) session.committed

def next (session : Session Rows) : Session Rows :=
  match session.arriving with
  | [] => session
  | commit :: later => { session with committed := commit session.committed, arriving := later }

/-- The rows once everyone else has committed, as if the transaction had never begun. -/
def world (session : Session Rows) : Rows := session.arriving.foldl (fun rows commit => commit rows) session.committed

/-- Back to a savepoint: the writes made since are taken back, what others committed is not. -/
def backTo (session savepoint : Session Rows) : Session Rows := { session with written := savepoint.written }

def mark (session : Session Rows) : Session Rows := { session with marked := true }

@[simp] theorem next_world (session : Session Rows) : session.next.world = session.world := by
  unfold next world
  split
  · rfl
  · rename_i commit later arriving
    rw [arriving, List.foldl_cons]

def close (session : Session Rows) : Rows :=
  session.arriving.foldl (fun rows commit => commit rows) (if session.marked then session.committed else session.rows)

theorem close_of_disowned {session : Session Rows} (disowned : session.marked = true ∨ session.written = []) :
    session.close = session.world := by
  unfold close world rows
  rcases disowned with marked | nothing
  · rw [if_pos marked]
  · rw [nothing, List.foldl_nil, ite_self]

end Session

/-- A stretch of a view. -/
abbrev View (Rows Refused : Type u) := Tx (Session Rows) (Raised Refused)

namespace View

def raise (raised : Raised Refused) : View Rows Refused α := Tx.refuse raised

def ask (read : Rows → Except (Raised Refused) α) : View Rows Refused α := fun session => (read session.next.rows, session.next)

/-- A statement that writes what it makes of the rows it reads, if it is not refused. -/
def write (plan : Rows → Except (Raised Refused) (List (Rows → Rows))) : View Rows Refused PUnit := fun session =>
  match plan session.next.rows with
  | .error raised => (.error raised, session.next)
  | .ok changes => (.ok ⟨⟩, { session.next with written := session.next.written ++ changes })

def update (change : Rows → Rows) : View Rows Refused PUnit := write fun _ => .ok [change]

/-- `INSERT`, unless a row holds one of its unique keys. -/
def insert (clashes : Rows → Bool) (change : Rows → Rows) : View Rows Refused PUnit :=
  write fun rows => if clashes rows then .error .integrity else .ok [change]

/-- `INSERT ... ON CONFLICT DO NOTHING`. -/
def insertMissing (clashes : Rows → Bool) (change : Rows → Rows) : View Rows Refused PUnit :=
  write fun rows => .ok (if clashes rows then [] else [change])

/-- `transaction.set_rollback(True)`. -/
def setRollback : View Rows Refused PUnit := Tx.write Session.mark

/-- `transaction.atomic()` around a write, its `IntegrityError` caught. -/
def atomicExcept (body handler : View Rows Refused α) : View Rows Refused α := fun session =>
  match body.execute session with
  | (.ok answer, after) => (.ok answer, after)
  | (.error .integrity, after) => handler.execute (after.backTo session)
  | (.error raised, after) => (.error raised, after.backTo session)

def check (condition : Prop) [Decidable condition] (raised : Raised Refused) : View Rows Refused PUnit :=
  if condition then pure ⟨⟩ else raise raised

/-- A view that, whatever it comes to, neither undoes nor forgets what others commit. -/
abbrev Steady (view : View Rows Refused α) : Prop := view.Keeps fun before after => after.world = before.world

/-- A view that writes nothing. -/
abbrev ReadsOnly (view : View Rows Refused α) : Prop := view.Keeps fun before after => after.written = before.written

def Marks (view : View Rows Refused α) : Prop :=
  ∀ session refused after, view.execute session = (.error (.problem refused), after) → after.marked = true

/-- A view that, begun on nothing written, has marked the transaction or written nothing when it raises a problem. -/
def Careful (view : View Rows Refused α) : Prop :=
  ∀ session refused after, session.written = [] → view.execute session = (.error (.problem refused), after) →
    after.marked = true ∨ after.written = []

instance : Std.Refl fun before after : Session Rows => after.world = before.world := ⟨fun _ => rfl⟩

instance : IsTrans (Session Rows) fun before after => after.world = before.world := ⟨fun _ _ _ first second => second.trans first⟩

instance : Std.Refl fun before after : Session Rows => after.written = before.written := ⟨fun _ => rfl⟩

namespace Steady

theorem ask (read : Rows → Except (Raised Refused) α) : (View.ask read).Steady := fun session => session.next_world

theorem write (plan : Rows → Except (Raised Refused) (List (Rows → Rows))) : (View.write plan).Steady := by
  intro session
  change (View.write plan session).2.world = session.world
  unfold View.write
  split
  · exact session.next_world
  · exact session.next_world

theorem update (change : Rows → Rows) : (View.update change : View Rows Refused PUnit).Steady := write _

theorem insert (clashes : Rows → Bool) (change : Rows → Rows) : (View.insert clashes change : View Rows Refused PUnit).Steady := write _

theorem insertMissing (clashes : Rows → Bool) (change : Rows → Rows) :
    (View.insertMissing clashes change : View Rows Refused PUnit).Steady := write _

theorem setRollback : (View.setRollback : View Rows Refused PUnit).Steady := fun _ => rfl

theorem check {condition : Prop} [Decidable condition] (raised : Raised Refused) :
    (View.check condition raised : View Rows Refused PUnit).Steady := by
  unfold View.check
  split
  · exact Tx.Keeps.pure _
  · exact Tx.Keeps.refuse _

theorem atomicExcept {body handler : View Rows Refused α} (inside : body.Steady) (caught : handler.Steady) :
    (body.atomicExcept handler).Steady := by
  intro session
  have went := inside session
  change (body.execute session).2.world = session.world at went
  change (View.atomicExcept body handler session).2.world = session.world
  unfold View.atomicExcept
  rcases found : body.execute session with ⟨raised | answer, after⟩
  all_goals rw [found] at went
  · cases raised with
    | integrity => exact (caught _).trans went
    | problem | validation | unforeseen => exact went
  · exact went

end Steady

namespace ReadsOnly

theorem check {condition : Prop} [Decidable condition] (raised : Raised Refused) :
    (View.check condition raised : View Rows Refused PUnit).ReadsOnly := by
  unfold View.check
  split
  · exact Tx.Keeps.pure _
  · exact Tx.Keeps.refuse _

end ReadsOnly

namespace Marks

theorem pure (answer : α) : (Pure.pure answer : View Rows Refused α).Marks := by
  intro session refused after raised
  cases raised

theorem raise {raised : Raised Refused} (other : ∀ refused, raised ≠ .problem refused) : (View.raise raised : View Rows Refused α).Marks := by
  intro session refused after found
  obtain ⟨same, -⟩ := Prod.mk.inj found
  exact absurd (Except.error.inj same) (other refused)

theorem bind {first : View Rows Refused α} {rest : α → View Rows Refused β} (start : first.Marks)
    (goes : ∀ answer, (rest answer).Marks) : (first >>= rest).Marks := by
  intro session refused after raised
  rw [Tx.execute_bind] at raised
  rcases found : first.execute session with ⟨why | answer, middle⟩
  · rw [found] at raised
    obtain ⟨same, rfl⟩ := Prod.mk.inj raised
    exact start session refused _ (found.trans (by rw [Except.error.inj same]))
  · rw [found] at raised
    exact goes answer middle refused after raised

theorem ask {read : Rows → Except (Raised Refused) α} (other : ∀ rows refused, read rows ≠ .error (.problem refused)) :
    (View.ask read).Marks := by
  intro session refused after raised
  exact absurd (Prod.mk.inj raised).1 (other _ refused)

theorem write {plan : Rows → Except (Raised Refused) (List (Rows → Rows))}
    (other : ∀ rows refused, plan rows ≠ .error (.problem refused)) : (View.write plan).Marks := by
  intro session refused after raised
  change View.write plan session = _ at raised
  unfold View.write at raised
  split at raised
  · rename_i found
    obtain ⟨same, -⟩ := Prod.mk.inj raised
    exact absurd (found.trans (by rw [Except.error.inj same])) (other _ refused)
  · cases raised

theorem update (change : Rows → Rows) : (View.update change : View Rows Refused PUnit).Marks :=
  .write fun _ _ found => nomatch found

theorem insert (clashes : Rows → Bool) (change : Rows → Rows) : (View.insert clashes change : View Rows Refused PUnit).Marks := by
  refine .write fun rows refused => ?_
  split
  · exact nofun
  · exact nofun

theorem insertMissing (clashes : Rows → Bool) (change : Rows → Rows) :
    (View.insertMissing clashes change : View Rows Refused PUnit).Marks := .write fun _ _ found => nomatch found

theorem check {condition : Prop} [Decidable condition] {raised : Raised Refused} (other : ∀ refused, raised ≠ .problem refused) :
    (View.check condition raised : View Rows Refused PUnit).Marks := by
  unfold View.check
  split
  · exact .pure _
  · exact .raise other

theorem atomicExcept {body handler : View Rows Refused α} (inside : body.Marks) (caught : handler.Marks) :
    (body.atomicExcept handler).Marks := by
  intro session refused after raised
  change View.atomicExcept body handler session = _ at raised
  unfold View.atomicExcept at raised
  rcases found : body.execute session with ⟨why | answer, middle⟩
  · rw [found] at raised
    cases why with
    | integrity => exact caught _ refused after raised
    | problem =>
      obtain ⟨same, rfl⟩ := Prod.mk.inj raised
      exact inside session refused middle (found.trans (by rw [Except.error.inj same]))
    | validation | unforeseen => cases raised
  · rw [found] at raised
    cases raised

theorem when {condition : Prop} [Decidable condition] {view : View Rows Refused PUnit} (marks : view.Marks) :
    Marks (Tx.when condition view) := by
  unfold Tx.when
  split
  · exact marks
  · exact .pure _

theorem given {value : Option β} {view : β → View Rows Refused PUnit} (marks : ∀ value, (view value).Marks) :
    Marks (Tx.given value view) := by
  cases value with
  | none => exact .pure _
  | some value => exact marks value

theorem setRollback_raise (raised : Raised Refused) :
    ((View.setRollback : View Rows Refused PUnit) >>= fun _ => (View.raise raised : View Rows Refused α)).Marks := by
  intro session refused after found
  obtain ⟨-, rfl⟩ := Prod.mk.inj found
  rfl

end Marks

namespace Careful

theorem of_marks {view : View Rows Refused α} (marks : view.Marks) : view.Careful :=
  fun session refused after _ raised => .inl (marks session refused after raised)

theorem bind {first : View Rows Refused α} {rest : α → View Rows Refused β} (start : first.ReadsOnly)
    (goes : ∀ answer, (rest answer).Careful) : (first >>= rest).Careful := by
  intro session refused after nothing raised
  have same := start session
  rw [Tx.execute_bind] at raised
  rcases found : first.execute session with ⟨why | answer, middle⟩
  · rw [found] at raised
    obtain ⟨-, rfl⟩ := Prod.mk.inj raised
    rw [Tx.left, found] at same
    exact .inr (same.trans nothing)
  · rw [found] at raised
    rw [Tx.left, found] at same
    exact goes answer middle refused after (same.trans nothing) raised

end Careful

/-- A decorator that answers a failed validation, with the transaction marked. -/
def answersProblems (view : View Rows Refused α) : View Rows Refused (Except Refused α) := fun session =>
  match view.execute session with
  | (.ok answer, after) => (.ok (.ok answer), after)
  | (.error (.validation refused), after) => (.ok (.error refused), after.mark)
  | (.error raised, after) => (.error raised, after)

/-- The handlers of what a view raises: a problem is answered as it is, anything unforeseen with the transaction marked. -/
def handled (unexpected : Refused) : Except (Raised Refused) (Except Refused α) × Session Rows → Except Refused α × Session Rows
  | (.ok answer, after) => (answer, after)
  | (.error (.problem refused), after) => (.error refused, after)
  | (.error (.validation refused), after) => (.error refused, after)
  | (.error _, after) => (.error unexpected, after.mark)

/-- A request: what it is answered, and the rows once it and everyone else have committed. -/
def request (unexpected : Refused) (view : View Rows Refused (Except Refused α)) (committed : Rows) (arriving : List (Rows → Rows)) :
    Except Refused α × Rows :=
  let ended := handled unexpected (view.execute { committed, arriving })
  (ended.1, ended.2.close)

/-- A refusal of a decorated view leaves the rows as the others left them. -/
theorem request_refused {unexpected : Refused} {view : View Rows Refused α} (steady : view.Steady) (careful : view.Careful)
    {committed : Rows} {arriving : List (Rows → Rows)} {refused : Refused}
    (answered : (request unexpected (answersProblems view) committed arriving).1 = .error refused) :
    (request unexpected (answersProblems view) committed arriving).2 = arriving.foldl (fun rows commit => commit rows) committed := by
  have world := steady { committed, arriving }
  have problems := careful { committed, arriving }
  change (handled unexpected (answersProblems view { committed, arriving })).1 = _ at answered
  change (handled unexpected (answersProblems view { committed, arriving })).2.close = _
  rw [Tx.left] at world
  unfold answersProblems at answered ⊢
  rcases found : view.execute { committed, arriving } with ⟨raised | answer, after⟩
  · rw [found] at world
    have left : ∀ ended : Session Rows, ended.world = after.world → (ended.marked = true ∨ ended.written = []) →
        ended.close = arriving.foldl (fun rows commit => commit rows) committed :=
      fun ended same disowned => (Session.close_of_disowned disowned).trans (same.trans world)
    cases raised with
    | problem why => exact left after rfl (problems why after rfl found)
    | validation | integrity | unforeseen => exact left after.mark rfl (.inl rfl)
  · rw [found] at answered
    cases answered

end View
end Grc.Lib
