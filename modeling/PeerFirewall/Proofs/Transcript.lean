import PeerFirewall.Proofs.Outcome

/-!
# Transcripts

A transcript lists the questions that a program asks with the answers that it is given, up to the
end of the program. Whatever is answered, there is one transcript and one end for it, so a property
of every transcript is a property of every run (`Program.goes_run`). A program that goes on in the
same way after answers that differ somehow comes to the same in worlds whose answers differ so
(`Program.Disregards.run_eq`).
-/
namespace PeerFirewall

/-- Questions with their answers, in order. -/
abbrev Transcript (I : Interface) := List ((q : I.Question) × I.Answer q)

namespace Program

variable {I : Interface} {α β σ : Type}

/-- Whether a program that is answered as in a transcript asks its questions and no others, and ends
with a value. -/
def Goes : Program I α → Transcript I → α → Prop
  | done a, t, b => t = [] ∧ a = b
  | ask q next, t, b => ∃ answer rest, t = ⟨q, answer⟩ :: rest ∧ (next answer).Goes rest b

variable {t : Transcript I}

/-- A program that asks goes on as it does after the answer. -/
@[simp] theorem goes_ask {q : I.Question} {next : I.Answer q → Program I α} {b : α} :
    (ask q next).Goes t b ↔
      ∃ answer rest, t = ⟨q, answer⟩ :: rest ∧ (next answer).Goes rest b := Iff.rfl

/-- A program continued by a second one asks the questions of the first one and then those of the
second one. -/
theorem goes_bind {p : Program I α} {f : α → Program I β} {b : β} :
    (p.bind f).Goes t b ↔
      ∃ first second a, t = first ++ second ∧ p.Goes first a ∧ (f a).Goes second b := by
  induction p generalizing t with
  | done a =>
    constructor
    · exact fun goes => ⟨[], t, a, rfl, ⟨rfl, rfl⟩, goes⟩
    · rintro ⟨_, second, _, rfl, ⟨rfl, rfl⟩, goes⟩
      exact goes
  | ask q next ih =>
    simp only [bind, goes_ask, ih]
    constructor
    · rintro ⟨answer, _, rfl, first, second, a, rfl, begins, ends⟩
      exact ⟨_, second, a, rfl, ⟨answer, first, rfl, begins⟩, ends⟩
    · rintro ⟨_, second, a, rfl, ⟨answer, first, rfl, begins⟩, ends⟩
      exact ⟨answer, _, rfl, first, second, a, rfl, begins, ends⟩

/-- A program whose end is changed asks the same questions. -/
theorem goes_map {p : Program I α} {f : α → β} {b : β} :
    (f <$> p).Goes t b ↔ ∃ a, p.Goes t a ∧ f a = b := by
  rw [map_eq_pure_bind, bind_eq_bind, goes_bind]
  constructor
  · rintro ⟨first, _, a, rfl, goes, rfl, same⟩
    exact ⟨a, (List.append_nil first).symm ▸ goes, same⟩
  · rintro ⟨a, goes, same⟩
    exact ⟨t, [], a, (List.append_nil t).symm, goes, rfl, same⟩

/-- What is asked is what a program asks only. -/
theorem Asks.of_goes {permitted : I.Question → Prop} {p : Program I α} (asks : p.Asks permitted)
    {a : α} (goes : p.Goes t a) : ∀ exchange ∈ t, permitted exchange.1 := by
  induction p generalizing t with
  | done b =>
    obtain ⟨rfl, _⟩ := goes
    exact List.forall_mem_nil _
  | ask q next ih =>
    obtain ⟨answer, rest, rfl, goes⟩ := goes
    exact List.forall_mem_cons.2 ⟨asks.1, ih answer (asks.2 answer) goes⟩

/-- A bounded program ends as it may. -/
theorem Bounded.of_goes {permitted : I.Question → Prop} {ends : α → Prop} {p : Program I α}
    (bounded : p.Bounded permitted ends) {a : α} (goes : p.Goes t a) : ends a := by
  induction p generalizing t with
  | done b =>
    obtain ⟨_, rfl⟩ := goes
    exact bounded
  | ask q next ih =>
    obtain ⟨answer, _, _, goes⟩ := goes
    exact ih answer (bounded.2 answer) goes

/-- With the same answers a program goes the same way. -/
theorem Goes.unique {p : Program I α} {first other later rest : Transcript I} {a b : α}
    (goes : p.Goes first a) (goesToo : p.Goes other b) (same : first ++ later = other ++ rest) :
    first = other ∧ a = b := by
  induction p generalizing first other with
  | done c =>
    obtain ⟨rfl, rfl⟩ := goes
    obtain ⟨rfl, rfl⟩ := goesToo
    exact ⟨rfl, rfl⟩
  | ask q next ih =>
    obtain ⟨answer, left, rfl, goes⟩ := goes
    obtain ⟨answerToo, right, rfl, goesToo⟩ := goesToo
    obtain ⟨head, tail⟩ := List.cons.inj same
    cases head
    obtain ⟨rfl, rfl⟩ := ih answer goes goesToo tail
    exact ⟨rfl, rfl⟩

/-- With the same answers a program ends the same way. -/
theorem Goes.ends_unique {p : Program I α} {a b : α} (goes : p.Goes t a) (goesToo : p.Goes t b) :
    a = b :=
  (goes.unique goesToo (rfl : t ++ [] = t ++ [])).2

/-- A program comes to its end with the answers of its transcript. -/
theorem reaches_of_goes {p : Program I α} {a : α} (goes : p.Goes t a) :
    p.Reaches (fun q given => ⟨q, given⟩ ∈ t) a := by
  induction p generalizing t with
  | done b => exact goes.2
  | ask q next ih =>
    obtain ⟨answer, rest, rfl, goes⟩ := goes
    exact ⟨answer, List.mem_cons_self, (ih answer goes).imp fun _ _ => List.mem_cons_of_mem _⟩

/-- Whether a question was answered by another program within a transcript, and with what. -/
def Answered {J : Interface} (answer : (q : I.Question) → Program J (I.Answer q))
    (t : Transcript J) (q : I.Question) (a : I.Answer q) : Prop :=
  ∃ before during later, t = before ++ (during ++ later) ∧ (answer q).Goes during a

/-- A program whose questions are answered by others comes to what it makes of their answers. -/
theorem reaches_of_answeredBy {J : Interface} {answer : (q : I.Question) → Program J (I.Answer q)}
    {p : Program I α} {t : Transcript J} {a : α} (goes : (p.answeredBy answer).Goes t a) :
    p.Reaches (Answered answer t) a := by
  -- What was answered before the rest of a transcript is kept, so the induction is on any whole.
  suffices whole : ∀ before rest, (p.answeredBy answer).Goes rest a → t = before ++ rest →
      p.Reaches (Answered answer t) a from whole [] t goes rfl
  clear goes
  induction p with
  | done b =>
    rintro _ _ ⟨_, same⟩ _
    exact same
  | ask q next ih =>
    intro before rest goes same
    obtain ⟨during, later, given, rfl, answers, goes⟩ := goes_bind.1 goes
    refine ⟨given, ⟨before, during, later, same, answers⟩, ?_⟩
    exact ih given (before ++ during) later goes (by rw [same, List.append_assoc])

/-- The transcript of a run. -/
def transcript (respond : (q : I.Question) → σ → I.Answer q × σ) :
    Program I α → σ → Transcript I
  | done _, _ => []
  | ask q next, s =>
    let answered := respond q s
    ⟨q, answered.1⟩ :: (next answered.1).transcript respond answered.2

/-- The transcript of a program that is continued by a second one. -/
theorem transcript_bind (respond : (q : I.Question) → σ → I.Answer q × σ) (p : Program I α)
    (f : α → Program I β) (s : σ) :
    (p.bind f).transcript respond s = p.transcript respond s ++
      (f (p.run respond s).1).transcript respond (p.run respond s).2 := by
  induction p generalizing s with
  | done a => rfl
  | ask q next ih => simp only [bind, transcript, run, ih, List.cons_append]

/-- A program whose end is changed asks the same questions. -/
theorem transcript_map (respond : (q : I.Question) → σ → I.Answer q × σ) (f : α → β)
    (p : Program I α) (s : σ) : (f <$> p).transcript respond s = p.transcript respond s := by
  rw [map_eq_pure_bind, bind_eq_bind, transcript_bind]
  exact List.append_nil _

/-- A run goes as its transcript says. -/
theorem goes_run (respond : (q : I.Question) → σ → I.Answer q × σ) (p : Program I α) (s : σ) :
    p.Goes (p.transcript respond s) (p.run respond s).1 := by
  induction p generalizing s with
  | done a => exact ⟨rfl, rfl⟩
  | ask q next ih => exact ⟨_, _, rfl, ih _ _⟩

/-- What a run comes to, the program comes to with some answers. -/
theorem exists_goes {respond : (q : I.Question) → σ → I.Answer q × σ} {p : Program I α} {s : σ}
    {a : α} (comes : (p.run respond s).1 = a) : ∃ t, p.Goes t a :=
  ⟨_, comes ▸ goes_run respond p s⟩

/-! ### Answers that make no difference -/

/-- Whether a program goes on in one and the same way after answers that are related. -/
def Disregards (related : (q : I.Question) → I.Answer q → I.Answer q → Prop) : Program I α → Prop
  | done _ => True
  | ask q next =>
    (∀ answer other, related q answer other → next answer = next other) ∧
      ∀ answer, (next answer).Disregards related

variable {related : (q : I.Question) → I.Answer q → I.Answer q → Prop}

/-- Two programs one after the other disregard what each of them does. -/
theorem Disregards.bind {p : Program I α} (first : p.Disregards related) {f : α → Program I β}
    (second : ∀ a, (f a).Disregards related) : (p.bind f).Disregards related := by
  induction p with
  | done a => exact second a
  | ask q next ih =>
    constructor
    · intro answer other relates
      exact congrArg (·.bind f) (first.1 answer other relates)
    · exact fun answer => ih answer (first.2 answer)

/-- Steps that may fail disregard together what each of them does. -/
theorem Disregards.bindOk {ε : Type} {x : ExceptT ε (Program I) α}
    {f : α → ExceptT ε (Program I) β} (first : x.run.Disregards related)
    (second : ∀ a, (f a).run.Disregards related) : (x >>= f).run.Disregards related := by
  rw [ExceptT.run_bind, bind_eq_bind]
  refine first.bind fun result => ?_
  cases result with
  | error error => trivial
  | ok a => exact second a

/-- Whether states that are alike give related answers, and stay alike whatever they are asked. -/
structure AnswersAlike {τ : Type} (related : (q : I.Question) → I.Answer q → I.Answer q → Prop)
    (respond : (q : I.Question) → σ → I.Answer q × σ)
    (other : (q : I.Question) → τ → I.Answer q × τ) (alike : σ → τ → Prop) : Prop where
  answers : ∀ q s t, alike s t → related q (respond q s).1 (other q t).1
  stays : ∀ q s t, alike s t → alike (respond q s).2 (other q t).2

/-- A program that disregards how answers differ asks the same of states that are alike, and comes
to the same. -/
theorem Disregards.run_eq {τ : Type} {respond : (q : I.Question) → σ → I.Answer q × σ}
    {other : (q : I.Question) → τ → I.Answer q × τ} {alike : σ → τ → Prop} {p : Program I α}
    (disregards : p.Disregards related) (agree : AnswersAlike related respond other alike) {s : σ}
    {t : τ} (starts : alike s t) :
    (p.run respond s).1 = (p.run other t).1 ∧
      (p.transcript respond s).map Sigma.fst = (p.transcript other t).map Sigma.fst := by
  induction p generalizing s t with
  | done a => exact ⟨rfl, rfl⟩
  | ask q next ih =>
    have same := disregards.1 _ _ (agree.answers q s t starts)
    obtain ⟨ends, asks⟩ := ih (respond q s).1 (disregards.2 _) (agree.stays q s t starts)
    simp only [run, transcript, List.map_cons, ← same]
    exact ⟨ends, by rw [asks]⟩

end Program

end PeerFirewall
