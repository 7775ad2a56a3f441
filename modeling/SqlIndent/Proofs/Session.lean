import Mathlib.Tactic.Common
import SqlIndent.Session

/-!
# One keyword set for each session

Which keyword set a session works with is settled by its first request, whatever that request is: it
gives a set, or else the built-in one is fixed. From then on requests leave the session as it is. So
every answer can be told from the request and that one set, with no regard to what was asked before
(`session_answers`).
-/

namespace SqlIndent

/-- A text is formatted if formatting gives it back. -/
lemma isFormatted_eq_decide (options : Options) (keywords : KeywordSet) (source : Text) :
    isFormatted options keywords source = decide (format options keywords source = source) := by
  rw [isFormatted, beq_eq_decide]

namespace Session

/-- The keyword set that the first of the requests settles. -/
def settled : List Request → KeywordSet
  | .install keywords :: _ => keywords
  | _ => .builtin

/-- The session after the given requests. -/
def after (s : Session) (requests : List Request) : Session :=
  requests.foldl (fun s r => (s.perform r).1) s

/-- If the first request installs nothing, the built-in keywords are settled. -/
lemma settled_eq_builtin {requests : List Request}
    (h : ∀ given, requests.head? ≠ some (Request.install given)) :
    settled requests = .builtin := by
  cases requests with
  | nil => rfl
  | cons r requests =>
    cases r with
    | install given => exact absurd rfl (h given)
    | _ => rfl

/-! ## One request -/

/-- The first request settles the keyword set. -/
lemma perform_fresh (r : Request) (requests : List Request) :
    (({} : Session).perform r).1 = ⟨some (settled (r :: requests))⟩ := by
  cases r <;> rfl

/-- Unless it gives a set, the first request is answered from the set that it settles. -/
lemma perform_fresh_of_ne {r : Request} (h : ∀ given, r ≠ .install given)
    (requests : List Request) :
    (({} : Session).perform r).2 = r.answer (settled (r :: requests)) := by
  cases r with
  | install given => exact absurd rfl (h given)
  | _ => rfl

/-- No later request changes the session. -/
lemma perform_fixed (keywords : KeywordSet) (r : Request) :
    (⟨some keywords⟩ : Session).perform r = (⟨some keywords⟩, r.answer keywords) := by
  cases r <;> rfl

/-! ## Many requests -/

/-- Once the keywords are fixed, no request changes them. -/
lemma after_fixed (keywords : KeywordSet) (requests : List Request) :
    (⟨some keywords⟩ : Session).after requests = ⟨some keywords⟩ := by
  induction requests with
  | nil => rfl
  | cons r requests ih => rw [after, List.foldl_cons, perform_fixed, ← after, ih]

/-- Once there was a request, the session has the set that the first one settled. -/
lemma after_take {requests : List Request} {i : Nat} (hne : requests ≠ []) (hi : i ≠ 0) :
    ({} : Session).after (requests.take i) = ⟨some (settled requests)⟩ := by
  obtain ⟨r, requests, rfl⟩ := List.exists_cons_of_ne_nil hne
  obtain ⟨i, rfl⟩ := Nat.exists_eq_succ_of_ne_zero hi
  rw [List.take_succ_cons, after, List.foldl_cons, perform_fresh r requests, ← after, after_fixed]

lemma length_performAll (s : Session) (requests : List Request) :
    (s.performAll requests).length = requests.length := by
  induction requests generalizing s with
  | nil => rfl
  | cons r requests ih => rw [performAll, List.length_cons, List.length_cons, ih]

/-- An answer is that of the session as the requests before it left it. -/
lemma getElem?_performAll {s : Session} {requests : List Request} {i : Nat} {r : Request}
    (h : requests[i]? = some r) :
    (s.performAll requests)[i]? = some ((s.after (requests.take i)).perform r).2 := by
  induction requests generalizing s i with
  | nil => simp at h
  | cons q requests ih =>
    cases i with
    | zero =>
      obtain rfl : q = r := by simpa using h
      rfl
    | succ i =>
      rw [performAll, List.getElem?_cons_succ, ih (by simpa using h)]
      rfl

/-- Only a set that is given first of all is not answered from the set that was settled. -/
lemma getElem?_performAll_eq_answer {requests : List Request} {i : Nat} {r : Request}
    (h : requests[i]? = some r) (hr : i = 0 → ∀ given, r ≠ .install given) :
    (performAll {} requests)[i]? = some (r.answer (settled requests)) := by
  rw [getElem?_performAll h]
  by_cases hi : i = 0
  · subst hi
    cases requests with
    | nil => simp at h
    | cons q requests =>
      obtain rfl : q = r := by simpa using h
      exact congrArg some (perform_fresh_of_ne (hr rfl) requests)
  · have hne : requests ≠ [] := by
      rintro rfl
      simp at h
    rw [after_take hne hi, perform_fixed]

/-- **One keyword set for each session.** There is one keyword set, the one that the first request
gives or else the built-in one, from which every answer follows. Only as the very first request is a
set accepted; any other attempt is refused and leaves the session as it is. -/
theorem session_answers (requests : List Request) :
    ∃ keywords : KeywordSet,
      (∀ given, requests.head? = some (Request.install given) → keywords = given) ∧
      ((∀ given, requests.head? ≠ some (Request.install given)) → keywords = .builtin) ∧
      (performAll {} requests).length = requests.length ∧
      ∀ (i : Nat) (r : Request), requests[i]? = some r →
        ∃ answer, (performAll {} requests)[i]? = some answer ∧ match r with
          | .install _ =>
            (answer = .installed ↔ i = 0) ∧
            (i ≠ 0 → answer.error? = some .keywordsFixed ∧
              after {} (requests.take (i + 1)) = after {} (requests.take i))
          | .lists => answer = .lists keywords.toLists
          | .format options source => answer = .text (SqlIndent.format options keywords source)
          | .check options source =>
            answer = .verdict (decide (SqlIndent.format options keywords source = source))
          | .document options source =>
            answer = .replacement (reformatting options keywords source) := by
  refine ⟨settled requests, ?_, settled_eq_builtin, length_performAll {} requests, ?_⟩
  · intro given hgiven
    obtain ⟨rest, rfl⟩ := List.head?_eq_some_iff.1 hgiven
    rfl
  intro i r hr
  cases r with
  | install given =>
    by_cases hi : i = 0
    · subst hi
      refine ⟨.installed, getElem?_performAll hr, by simp, fun h => absurd rfl h⟩
    · have hne : requests ≠ [] := by
        rintro rfl
        simp at hr
      refine ⟨_, getElem?_performAll_eq_answer hr fun h => absurd h hi, ?_, fun _ => ⟨rfl, ?_⟩⟩
      · simp [hi, Request.answer]
      · rw [after_take hne hi, after_take hne (Nat.succ_ne_zero i)]
  | check options source =>
    refine ⟨_, getElem?_performAll_eq_answer hr (by simp), ?_⟩
    rw [Request.answer, isFormatted_eq_decide]
  | _ => exact ⟨_, getElem?_performAll_eq_answer hr (by simp), rfl⟩

end Session
end SqlIndent
