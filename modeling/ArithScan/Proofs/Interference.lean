import ArithScan.Proofs.History

set_option autoImplicit false

namespace ArithScan

def atPlaces {α : Type} (keeps : Nat → Bool) (entries : List α) : List α :=
  (entries.zipIdx.filter fun entry => keeps entry.2).map Prod.fst

theorem at_places_cons {α : Type} (keeps : Nat → Bool) (entry : α) (later : List α) :
    atPlaces keeps (entry :: later) =
      if keeps 0 then entry :: atPlaces (fun place => keeps (place + 1)) later
      else atPlaces (fun place => keeps (place + 1)) later := by
  have rest : ((later.zipIdx 1).filter fun entry => keeps entry.2).map Prod.fst =
      atPlaces (fun place => keeps (place + 1)) later := by
    rw [atPlaces, List.zipIdx_succ, List.filter_map, List.map_map]
    rfl
  rw [atPlaces, List.zipIdx_cons, List.filter_cons]
  cases keeps 0 with
  | true => exact congrArg (List.cons entry) rest
  | false => exact rest

-- Whether a request was without effect on the session that gave it this reply.
def Request.inert : Request → Reply → Bool
  | .charAt _, _ | .textFrom _, _ | .atEnd _, _ => true
  | .step _ _ _, .refused _ | .next _, .refused _ | .next _, .nothingLeft => true
  | _, _ => false

def Request.Unkept : Request → Prop
  | .step _ _ keep => keep = false
  | .next keep => keep = false
  | _ => False

namespace Session

theorem inert_still (session : Session) (request : Request)
    (inert : request.inert (session.answer request).1 = true) : (session.answer request).2 = session := by
  cases request with
  | charAt position => rfl
  | textFrom position => rfl
  | atEnd position => rfl
  | step position current keep =>
      rcases session.step_cases position current keep with refused | ⟨token?, stop, run, _, moved⟩
      · exact congrArg Prod.snd refused
      · rw [show session.answer (.step position current keep) = _ from moved] at inert
        cases inert
  | next keep =>
      rcases session.next_cases keep with ⟨_, nothing⟩ | ⟨current, _, made⟩
      · rw [nothing]
      · rw [made] at inert ⊢
        rcases session.step_cases session.cursor current keep with refused | ⟨token?, stop, run, _, moved⟩
        · rw [refused]
        · rw [moved] at inert
          cases inert
  | push token => cases inert
  | finish => cases inert

theorem inert_removed (session : Session) (requests : List Request) (keeps : Nat → Bool)
    (inert : ∀ place entry, (session.log requests)[place]? = some entry → keeps place = false →
      entry.1.inert entry.2 = true) :
    session.run (atPlaces keeps requests) = (atPlaces keeps (session.run requests).1, (session.run requests).2) := by
  induction requests generalizing session keeps with
  | nil => rfl
  | cons request later ih =>
      have others := ih (session.answer request).2 (fun place => keeps (place + 1)) fun place => inert (place + 1)
      rw [at_places_cons, run, at_places_cons]
      cases first : keeps 0 with
      | true => simp only [if_true, run, others]
      | false =>
          have still := session.inert_still request (inert 0 _ rfl first)
          rw [still] at others
          simp only [Bool.false_eq_true, if_false, still, others]

def holding (session : Session) (tokens : List Token) : Session := { session with pushed := tokens }

theorem step_holding (session : Session) (tokens : List Token) (position : Nat) (current : Char) :
    (session.holding tokens).step position current false =
      ((session.step position current false).1, (session.step position current false).2.holding tokens) := by
  rw [step, step, show (session.holding tokens).source = session.source from rfl]
  cases Lexeme.scanAt Rule.table session.source position current with
  | error error => rfl
  | ok lexeme => simp [pass, holding]

theorem answer_holding (session : Session) (tokens : List Token) (request : Request) (unkept : request.Unkept) :
    (session.holding tokens).answer request =
      ((session.answer request).1, (session.answer request).2.holding tokens) := by
  cases request with
  | step position current keep =>
      obtain rfl : keep = false := unkept
      exact session.step_holding tokens position current
  | next keep =>
      obtain rfl : keep = false := unkept
      simp only [answer, show (session.holding tokens).source = session.source from rfl,
        show (session.holding tokens).cursor = session.cursor from rfl]
      cases session.source.charAt? session.cursor with
      | none => rfl
      | some current => exact session.step_holding tokens session.cursor current
  | charAt position => cases unkept
  | textFrom position => cases unkept
  | atEnd position => cases unkept
  | push token => cases unkept
  | finish => cases unkept

theorem unkept_pushed (session : Session) (request : Request) (unkept : request.Unkept) :
    (session.answer request).2.pushed = session.pushed := by
  have same := session.answer_holding session.pushed request unkept
  exact congrArg (fun outcome => outcome.2.pushed) same

theorem push_commutes (session : Session) (token : Token) (request : Request) (unkept : request.Unkept) :
    (session.answer (.push token)).2.answer request =
      ((session.answer request).1, ((session.answer request).2.answer (.push token)).2) := by
  refine (session.answer_holding (session.pushed ++ [token]) request unkept).trans ?_
  rw [← session.unkept_pushed request unkept]
  rfl

theorem push_swapped (session : Session) (earlier later : List Request) (token : Token) (request : Request)
    (unkept : request.Unkept) :
    ∃ before reply after, before.length = earlier.length ∧
      (session.run (earlier ++ .push token :: request :: later)).1 = before ++ .pushed :: reply :: after ∧
        (session.run (earlier ++ request :: .push token :: later)).1 = before ++ reply :: .pushed :: after := by
  have commutes := (session.run earlier).2.push_commutes token request unkept
  refine ⟨(session.run earlier).1, ((session.run earlier).2.answer request).1,
    ((((session.run earlier).2.answer request).2.answer (.push token)).2.run later).1,
    session.replies_length earlier, ?_, ?_⟩
  · rw [run_append, run, run, commutes]
    rfl
  · rw [run_append, run, run]
    rfl

theorem run_restarted (source : Text) (earlier later : List Request) :
    ((begin source).run (earlier ++ .finish :: later)).1 =
      ((begin source).run (earlier ++ [.finish])).1 ++ ((begin source).run later).1 := by
  have same : ((begin source).run earlier).2.source = source :=
    (run_sound source _ earlier (begin_sound source)).same
  have fresh : (((begin source).run earlier).2.answer .finish).2 = begin source := congrArg begin same
  rw [run_append, run_append, run, run, run, fresh, List.append_assoc]
  rfl

theorem replies_undisturbed (source : Text) :
    (∀ requests keeps,
      (∀ place entry, ((begin source).log requests)[place]? = some entry → keeps place = false →
        entry.1.inert entry.2 = true) →
      ((begin source).run (atPlaces keeps requests)).1 = atPlaces keeps ((begin source).run requests).1) ∧
      (∀ earlier later token request, Request.Unkept request →
        ∃ before reply after, before.length = earlier.length ∧
          ((begin source).run (earlier ++ .push token :: request :: later)).1 = before ++ .pushed :: reply :: after ∧
            ((begin source).run (earlier ++ request :: .push token :: later)).1 =
              before ++ reply :: .pushed :: after) ∧
        ∀ earlier later,
          ((begin source).run (earlier ++ .finish :: later)).1 =
            ((begin source).run (earlier ++ [.finish])).1 ++ ((begin source).run later).1 := by
  refine ⟨?_, ?_, run_restarted source⟩
  · intro requests keeps inert
    exact congrArg Prod.fst ((begin source).inert_removed requests keeps inert)
  · intro earlier later token request unkept
    exact (begin source).push_swapped earlier later token request unkept

theorem replies_undisturbed_mixed :
    (∀ place entry,
      ((begin "é1 x".toList).log [.next true, .step 2 '?' true, .step 1 'z' true, .charAt 3, .next false,
        .finish])[place]? = some entry →
        [1, 4, 5].contains place = false → entry.1.inert entry.2 = true) ∧
      ((begin "é1 x".toList).run (atPlaces [1, 4, 5].contains
          [.next true, .step 2 '?' true, .step 1 'z' true, .charAt 3, .next false, .finish])).1 =
        [.stepped (some ⟨.number, ['1'], ⟨2, 3⟩⟩) 3, .stepped none 4,
          .finished [⟨.number, ['1'], ⟨2, 3⟩⟩, .endOfInput 5]] ∧
        Request.Unkept (.next false) ∧
          ∃ before reply after, before.length = 1 ∧
            ((begin "é1 x".toList).run [.step 2 '?' true, .push (.endOfInput 9), .next false, .finish]).1 =
              before ++ .pushed :: reply :: after ∧
              ((begin "é1 x".toList).run [.step 2 '?' true, .next false, .push (.endOfInput 9), .finish]).1 =
                before ++ reply :: .pushed :: after := by
  obtain ⟨removed, swapped, _⟩ := replies_undisturbed "é1 x".toList
  have inert : ∀ entry ∈ ((begin "é1 x".toList).log [.next true, .step 2 '?' true, .step 1 'z' true, .charAt 3,
      .next false, .finish]).zipIdx, [1, 4, 5].contains entry.2 = false → entry.1.1.inert entry.1.2 = true := by
    decide
  have each := fun place entry found => inert (entry, place) (List.mk_mem_zipIdx_iff_getElem?.mpr found)
  refine ⟨each, (removed _ _ each).trans rfl, rfl, ?_⟩
  exact swapped [.step 2 '?' true] [.finish] (.endOfInput 9) (.next false) rfl

end Session

end ArithScan
