import PeerFirewall.Program

/-!
# What a program may come to

Who answers a program may answer differently each time, so a program has many outcomes.
`Program.Reaches` says that a value is one of them when every answer is one of those allowed. A run
against a state that gives allowed answers only comes to such a value (`reaches_run`), and with one
answer to each question the only outcome is that of `Program.eval` (`reaches_eval`), to which every
run comes (`run_eq_eval`). Whatever the answers are, a program may ask certain questions only
(`Program.Asks`).
-/
namespace PeerFirewall.Program

variable {I : Interface} {α β ε σ : Type}

/-- Whether a program may end with a value where every answer is allowed. -/
def Reaches (allowed : (q : I.Question) → I.Answer q → Prop) : Program I α → α → Prop
  | done a, b => a = b
  | ask q next, b => ∃ answer, allowed q answer ∧ (next answer).Reaches allowed b

variable {allowed : (q : I.Question) → I.Answer q → Prop}

/-- A program that has ended comes to its value only. -/
@[simp] theorem reaches_done {a b : α} : (done a : Program I α).Reaches allowed b ↔ a = b :=
  Iff.rfl

/-- A program that asks comes to what it comes to after an allowed answer. -/
@[simp] theorem reaches_ask {q : I.Question} {next : I.Answer q → Program I α} {b : α} :
    (ask q next).Reaches allowed b ↔ ∃ answer, allowed q answer ∧ (next answer).Reaches allowed b :=
  Iff.rfl

/-- What a program comes to, it comes to with more answers allowed. -/
theorem Reaches.imp {wider : (q : I.Question) → I.Answer q → Prop} {p : Program I α} {a : α}
    (reaches : p.Reaches allowed a) (implies : ∀ q given, allowed q given → wider q given) :
    p.Reaches wider a := by
  induction p with
  | done b => exact reaches
  | ask q next ih =>
    obtain ⟨answer, given, reaches⟩ := reaches
    exact ⟨answer, implies q answer given, ih answer reaches⟩

/-- A program continued by a second one comes to what the second one makes of an outcome of the
first. -/
@[simp] theorem reaches_bind {p : Program I α} {f : α → Program I β} {b : β} :
    (p.bind f).Reaches allowed b ↔ ∃ a, p.Reaches allowed a ∧ (f a).Reaches allowed b := by
  induction p with
  | done a => simp [bind]
  | ask q next ih =>
    simp only [bind, reaches_ask, ih]
    constructor
    · intro reached
      obtain ⟨answer, allowed, a, first, second⟩ := reached
      exact ⟨a, ⟨answer, allowed, first⟩, second⟩
    · intro reached
      obtain ⟨a, ⟨answer, allowed, first⟩, second⟩ := reached
      exact ⟨answer, allowed, a, first, second⟩

/-- A run comes to a possible outcome. -/
theorem reaches_run {respond : (q : I.Question) → σ → I.Answer q × σ}
    (honest : ∀ q s, allowed q (respond q s).1) (p : Program I α) (s : σ) :
    p.Reaches allowed (p.run respond s).1 := by
  induction p generalizing s with
  | done a => rfl
  | ask q next ih => exact ⟨_, honest q s, ih _ _⟩

/-- With one answer to each question a program has one outcome. -/
theorem reaches_eval (answer : (q : I.Question) → I.Answer q) (p : Program I α) (a : α) :
    p.Reaches (fun q given => given = answer q) a ↔ p.eval answer = a := by
  induction p with
  | done b => rfl
  | ask q next ih => simp [eval, ih]

/-- A run against a state that answers the same each time comes to the only outcome. -/
theorem run_eq_eval {respond : (q : I.Question) → σ → I.Answer q × σ}
    {answer : (q : I.Question) → I.Answer q} (steady : ∀ q s, (respond q s).1 = answer q)
    (p : Program I α) (s : σ) : (p.run respond s).1 = p.eval answer :=
  ((reaches_eval answer p _).1 (reaches_run (fun q s => steady q s) p s)).symm

/-- Steps that may fail succeed together if each succeeds with what the one before leaves it. -/
theorem reaches_ok_bind {x : ExceptT ε (Program I) α} {f : α → ExceptT ε (Program I) β} {b : β} :
    (x >>= f).run.Reaches allowed (.ok b) ↔
      ∃ a, x.run.Reaches allowed (.ok a) ∧ (f a).run.Reaches allowed (.ok b) := by
  rw [ExceptT.run_bind, bind_eq_bind, reaches_bind]
  constructor
  · intro reached
    obtain ⟨first | first, reached, later⟩ := reached
    · simp at later
    · exact ⟨first, reached, later⟩
  · intro reached
    obtain ⟨a, reached, later⟩ := reached
    exact ⟨.ok a, reached, later⟩

/-- A step that does nothing succeeds with its value. -/
@[simp] theorem reaches_ok_pure {a b : α} :
    (pure a : ExceptT ε (Program I) α).run.Reaches allowed (.ok b) ↔ a = b := by
  simp

/-- Steps that may fail fail together as the first one does or, if that succeeds, as the second
one does with what the first one leaves it. -/
theorem reaches_error_bind {x : ExceptT ε (Program I) α} {f : α → ExceptT ε (Program I) β}
    {error : ε} :
    (x >>= f).run.Reaches allowed (.error error) ↔
      x.run.Reaches allowed (.error error) ∨
        ∃ a, x.run.Reaches allowed (.ok a) ∧ (f a).run.Reaches allowed (.error error) := by
  rw [ExceptT.run_bind, bind_eq_bind, reaches_bind]
  constructor
  · intro reached
    obtain ⟨first | a, reached, later⟩ := reached
    · cases later
      exact .inl reached
    · exact .inr ⟨a, reached, later⟩
  · intro reached
    rcases reached with reached | ⟨a, reached, later⟩
    · exact ⟨.error error, reached, rfl⟩
    · exact ⟨.ok a, reached, later⟩

/-! ### Runs -/

/-- A program whose end is changed runs alike. -/
theorem run_map (respond : (q : I.Question) → σ → I.Answer q × σ) (f : α → β) (p : Program I α)
    (s : σ) : (f <$> p).run respond s = (f (p.run respond s).1, (p.run respond s).2) := by
  rw [map_eq_pure_bind, bind_eq_bind, run_bind]
  rfl

/-! ### Programs with a state -/

/-- A program with a state goes on with what it comes to and with what it leaves behind. -/
theorem run_stateT_bind (x : StateT σ (Program I) α) (f : α → StateT σ (Program I) β) (s : σ) :
    (x >>= f).run s = (x.run s).bind fun result => (f result.1).run result.2 := rfl

/-- A program with a state that asks something itself goes on with the answer. -/
theorem run_stateT_lift_bind (p : Program I α) (f : α → StateT σ (Program I) β) (s : σ) :
    ((liftM p : StateT σ (Program I) α) >>= f).run s = p.bind fun a => (f a).run s := by
  change (p.bind fun a => .done (a, s)).bind (fun result => (f result.1).run result.2) = _
  rw [bind_assoc]
  rfl

/-! ### What is asked -/

/-- Whether a program asks certain questions only, whatever it is answered. -/
def Asks (permitted : I.Question → Prop) : Program I α → Prop
  | done _ => True
  | ask q next => permitted q ∧ ∀ answer, (next answer).Asks permitted

variable {permitted : I.Question → Prop}

/-- A program that asks such questions asks questions of a wider sort. -/
theorem Asks.imp {wider : I.Question → Prop} {p : Program I α} (asks : p.Asks permitted)
    (implies : ∀ q, permitted q → wider q) : p.Asks wider := by
  induction p with
  | done a => trivial
  | ask q next ih => exact ⟨implies q asks.1, fun answer => ih answer (asks.2 answer)⟩

/-- A program asks some questions or others. -/
theorem asks_anything (p : Program I α) : p.Asks fun _ => True := by
  induction p with
  | done a => trivial
  | ask q next ih => exact ⟨trivial, ih⟩

/-- Two programs one after the other ask such questions if each of them does. -/
theorem Asks.bind {p : Program I α} (first : p.Asks permitted) {f : α → Program I β}
    (second : ∀ a, (f a).Asks permitted) : (p.bind f).Asks permitted := by
  induction p with
  | done a => exact second a
  | ask q next ih => exact ⟨first.1, fun answer => ih answer (first.2 answer)⟩

/-- Steps that may fail ask such questions together if each of them does. -/
theorem Asks.bindOk {x : ExceptT ε (Program I) α} {f : α → ExceptT ε (Program I) β}
    (first : x.run.Asks permitted) (second : ∀ a, (f a).run.Asks permitted) :
    (x >>= f).run.Asks permitted := by
  rw [ExceptT.run_bind, bind_eq_bind]
  refine first.bind fun result => ?_
  cases result with
  | error error => trivial
  | ok a => exact second a

/-- Whether a program asks certain questions only and ends with certain values only, whatever it is
answered. -/
def Bounded (permitted : I.Question → Prop) (ends : α → Prop) : Program I α → Prop
  | done a => ends a
  | ask q next => permitted q ∧ ∀ answer, (next answer).Bounded permitted ends

/-- A program that asks such questions, continued by bounded ones, is bounded. -/
theorem Asks.bindBounded {ends : β → Prop} {p : Program I α} (first : p.Asks permitted)
    {f : α → Program I β} (second : ∀ a, (f a).Bounded permitted ends) :
    (p.bind f).Bounded permitted ends := by
  induction p with
  | done a => exact second a
  | ask q next ih => exact ⟨first.1, fun answer => ih answer (first.2 answer)⟩

/-- A bounded program asks such questions. -/
theorem Bounded.asks {ends : α → Prop} {p : Program I α} (bounded : p.Bounded permitted ends) :
    p.Asks permitted := by
  induction p with
  | done a => trivial
  | ask q next ih => exact ⟨bounded.1, fun answer => ih answer (bounded.2 answer)⟩

/-- A bounded program asks questions of a wider sort and ends with values of a wider sort. -/
theorem Bounded.imp {wider : I.Question → Prop} {ends endsToo : α → Prop} {p : Program I α}
    (bounded : p.Bounded permitted ends) (implies : ∀ q, permitted q → wider q)
    (impliesToo : ∀ a, ends a → endsToo a) : p.Bounded wider endsToo := by
  induction p with
  | done a => exact impliesToo a bounded
  | ask q next ih => exact ⟨implies q bounded.1, fun answer => ih answer (bounded.2 answer)⟩

/-- Two programs one after the other are bounded if the first one is and the second one is wherever
the first one ends. -/
theorem Bounded.bind {ends : α → Prop} {endsLater : β → Prop} {p : Program I α}
    (first : p.Bounded permitted ends) {f : α → Program I β}
    (second : ∀ a, ends a → (f a).Bounded permitted endsLater) :
    (p.bind f).Bounded permitted endsLater := by
  induction p with
  | done a => exact second a first
  | ask q next ih => exact ⟨first.1, fun answer => ih answer (first.2 answer)⟩

/-- A program whose questions are answered by others asks such questions if all the others do. -/
theorem asks_answeredBy {J : Interface} {permitted : J.Question → Prop}
    {answer : (q : I.Question) → Program J (I.Answer q)}
    (each : ∀ q, (answer q).Asks permitted) (p : Program I α) :
    (p.answeredBy answer).Asks permitted := by
  induction p with
  | done a => trivial
  | ask q next ih => exact (each q).bind ih

end PeerFirewall.Program
