/-!
# Programs that ask

A program either ends with a value or asks one question and goes on with the answer. What may be
asked is an `Interface`; who answers, and from what, is left to whoever runs the program: `run`
answers from a state, `eval` and `questions` say what a program comes to whose questions always
have the same answers, and `answeredBy` takes them from another program. Programs are data, so a
program can be stopped, resumed and interleaved with other programs between any two questions.
-/
namespace PeerFirewall

/-- What a program may ask, and the answers that each question has. -/
structure Interface where
  Question : Type
  Answer : Question → Type

/-- A program that asks questions and ends with a value. -/
inductive Program (I : Interface) (α : Type) : Type where
  | done (value : α)
  | ask (question : I.Question) (next : I.Answer question → Program I α)

namespace Program

variable {I J : Interface} {α β γ σ : Type}

/-- Goes on with a second program where the first one ends. -/
def bind : Program I α → (α → Program I β) → Program I β
  | done a, f => f a
  | ask q next, f => ask q fun answer => (next answer).bind f

instance : Monad (Program I) where
  pure := done
  bind := bind

@[simp] theorem pure_eq_done (a : α) : (pure a : Program I α) = done a := rfl

@[simp] theorem bind_eq_bind (p : Program I α) (f : α → Program I β) : p >>= f = p.bind f := rfl

@[simp] theorem bind_done (p : Program I α) : p.bind done = p := by
  induction p with
  | done a => rfl
  | ask q next ih => simp only [bind, ih]

/-- Going on twice is going on with the two programs joined. -/
theorem bind_assoc (p : Program I α) (f : α → Program I β) (g : β → Program I γ) :
    (p.bind f).bind g = p.bind fun a => (f a).bind g := by
  induction p with
  | done a => rfl
  | ask q next ih => simp only [bind, ih]

instance : LawfulMonad (Program I) :=
  LawfulMonad.mk' (Program I) (fun p => bind_done p) (fun _ _ => rfl) bind_assoc

/-- The program that asks one question and ends with the answer. -/
def query (question : I.Question) : Program I (I.Answer question) := ask question done

/-- Runs a program against a state that answers its questions. -/
def run (respond : (q : I.Question) → σ → I.Answer q × σ) : Program I α → σ → α × σ
  | done a, s => (a, s)
  | ask q next, s =>
    let answered := respond q s
    (next answered.1).run respond answered.2

@[simp] theorem run_done (respond : (q : I.Question) → σ → I.Answer q × σ) (a : α) (s : σ) :
    (done a : Program I α).run respond s = (a, s) := rfl

@[simp] theorem run_bind (respond : (q : I.Question) → σ → I.Answer q × σ) (p : Program I α)
    (f : α → Program I β) (s : σ) :
    (p.bind f).run respond s = (f (p.run respond s).1).run respond (p.run respond s).2 := by
  induction p generalizing s with
  | done a => rfl
  | ask q next ih => simp only [bind, run, ih]

/-- Ends a program whose questions always have the same answers. -/
def eval (answer : (q : I.Question) → I.Answer q) : Program I α → α
  | done a => a
  | ask q next => (next (answer q)).eval answer

@[simp] theorem eval_bind (answer : (q : I.Question) → I.Answer q) (p : Program I α)
    (f : α → Program I β) : (p.bind f).eval answer = (f (p.eval answer)).eval answer := by
  induction p with
  | done a => rfl
  | ask q next ih => simp only [bind, eval, ih]

/-- The questions a program asks, in order, where they always have the same answers. -/
def questions (answer : (q : I.Question) → I.Answer q) : Program I α → List I.Question
  | done _ => []
  | ask q next => q :: (next (answer q)).questions answer

@[simp] theorem questions_bind (answer : (q : I.Question) → I.Answer q) (p : Program I α)
    (f : α → Program I β) :
    (p.bind f).questions answer = p.questions answer ++ (f (p.eval answer)).questions answer := by
  induction p with
  | done a => rfl
  | ask q next ih => simp only [bind, questions, eval, ih, List.cons_append]

/-- Answers every question by another program. -/
def answeredBy (answer : (q : I.Question) → Program J (I.Answer q)) : Program I α → Program J α
  | done a => done a
  | ask q next => (answer q).bind fun a => (next a).answeredBy answer

end Program

end PeerFirewall
