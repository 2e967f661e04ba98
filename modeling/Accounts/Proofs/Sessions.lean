import Mathlib.Data.List.Nodup
import Accounts.Proofs.Calls

/-!
# The machine of sessions

One session text for every name, changed by sign-ins and sign-outs alone. What
the machine answers after a run can be read off the calls: an id that was issued
once stands for the account it was issued to, until that account is given
another one or is logged out.
-/

namespace Accounts

open Service (Action Answer)

/-- The names in the order in which their accounts came, and a session text for each. -/
structure Sessions where
  names : List String
  session : String → String

namespace Sessions

/-- Who a cookie stands for: the first name with this session, and nobody for the empty text. -/
def lookup (sessions : Sessions) (cookie : Option String) : Visitor :=
  ⟨cookie.bind fun id =>
    if id = "" then none else sessions.names.find? fun name => sessions.session name == id⟩

def join (sessions : Sessions) (username : String) : Sessions :=
  { sessions with names := sessions.names ++ [username] }

def give (sessions : Sessions) (username id : String) : Sessions :=
  { sessions with session := Function.update sessions.session username id }

theorem give_self (sessions : Sessions) (username id : String) :
    (sessions.give username id).session username = id :=
  Function.update_self _ _ _

theorem give_other (sessions : Sessions) {username name : String} (id : String)
    (other : name ≠ username) :
    (sessions.give username id).session name = sessions.session name :=
  Function.update_of_ne other _ _

def dismiss (sessions : Sessions) (visitor : Visitor) : Sessions :=
  match visitor.username with
  | none => sessions
  | some username => sessions.give username ""

inductive Step (sessions : Sessions) : Action → Answer → Sessions → Prop where
  | login (username password : String) (login : Login) (owner : login.username = username)
      (known : username ∈ sessions.names) (issued : login.session ≠ "") :
      Step sessions (.login username password) (.signIn (.ok login))
        (sessions.give username login.session)
  | loginRefused (username password : String) (failure : Failure) :
      Step sessions (.login username password) (.signIn (.error failure)) sessions
  | register (username password : String) (login : Login) (owner : login.username = username)
      (fresh : username ∉ sessions.names) (issued : login.session ≠ "") :
      Step sessions (.register username password) (.signIn (.ok login))
        ((sessions.join username).give username login.session)
  /-- The account is made, but no session can be issued for it. -/
  | registerUnissued (username password : String) (failure : Failure)
      (fresh : username ∉ sessions.names) :
      Step sessions (.register username password) (.signIn (.error failure))
        (sessions.join username)
  | registerRefused (username password : String) (failure : Failure) :
      Step sessions (.register username password) (.signIn (.error failure)) sessions
  | resolve (cookie : Option String) :
      Step sessions (.resolve cookie) (.visitor (sessions.lookup cookie)) sessions
  | logout (visitor : Visitor) (cookie : Cookie) :
      Step sessions (.logout visitor) (.signOut cookie .anonymous) (sessions.dismiss visitor)
  | appendsFail (fault : Option Fault) :
      Step sessions (.appendsFail fault) .nothing sessions

/-- The steps from one state to another, with the calls that were made and their answers. -/
inductive Run (start : Sessions) : List (Action × Answer) → Sessions → Prop where
  | nil : Run start [] start
  | snoc {trace : List (Action × Answer)} {sessions next : Sessions} {action : Action}
      {answer : Answer} (earlier : Run start trace sessions)
      (step : Step sessions action answer next) :
      Run start (trace ++ [(action, answer)]) next

def loginIn : Answer → Option Login
  | .signIn (.ok login) => some login
  | _ => none

def leaver : Action → Option String
  | .logout visitor => visitor.username
  | _ => none

/-- The sign-ins that succeeded, the first one first. -/
def logins (trace : List (Action × Answer)) : List Login :=
  trace.filterMap fun entry => loginIn entry.2

/-- A call by which the account is signed in or logged out. -/
def Concerns (username : String) (entry : Action × Answer) : Prop :=
  (∃ login, loginIn entry.2 = some login ∧ login.username = username) ∨
    leaver entry.1 = some username

/-- The latest sign-in of an account gave it this id, and it was not logged out since. -/
def Holds (trace : List (Action × Answer)) (username id : String) : Prop :=
  ∃ earlier entry later login, trace = earlier ++ entry :: later ∧
    loginIn entry.2 = some login ∧ login.username = username ∧ login.session = id ∧
    ∀ other ∈ later, ¬ Concerns username other

section

variable {trace : List (Action × Answer)} {entry : Action × Answer} {username id : String}

theorem holds_of_login {login : Login} (trace : List (Action × Answer))
    (signedIn : loginIn entry.2 = some login) :
    Holds (trace ++ [entry]) login.username login.session :=
  ⟨trace, entry, [], login, rfl, signedIn, rfl, rfl, by simp⟩

theorem Holds.snoc (holds : Holds trace username id) (apart : ¬ Concerns username entry) :
    Holds (trace ++ [entry]) username id := by
  obtain ⟨earlier, signIn, later, login, rfl, signedIn, owner, issued, quiet⟩ := holds
  refine ⟨earlier, signIn, later ++ [entry], login, by simp, signedIn, owner, issued, ?_⟩
  intro other member
  rcases List.mem_append.mp member with before | last
  · exact quiet other before
  · rwa [List.mem_singleton.mp last]

theorem Holds.cases_snoc (holds : Holds (trace ++ [entry]) username id) :
    (∃ login, loginIn entry.2 = some login ∧ login.username = username ∧ login.session = id) ∨
      Holds trace username id ∧ ¬ Concerns username entry := by
  obtain ⟨earlier, signIn, later, login, place, signedIn, owner, issued, quiet⟩ := holds
  rcases List.eq_nil_or_concat later with empty | ⟨before, last, rfl⟩
  · rw [empty] at place
    obtain ⟨_, same⟩ := List.append_inj' place rfl
    rw [(List.cons.inj same).1]
    exact .inl ⟨login, signedIn, owner, issued⟩
  · rw [List.concat_eq_append, ← List.cons_append, ← List.append_assoc] at place
    obtain ⟨rest, same⟩ := List.append_inj' place rfl
    rw [(List.cons.inj same).1]
    refine .inr ⟨⟨earlier, signIn, before, login, rest, signedIn, owner, issued, ?_⟩, ?_⟩
    · exact fun other member => quiet other (by simp [member])
    · exact quiet last (by simp)

theorem Holds.login_mem (holds : Holds trace username id) :
    ∃ login ∈ logins trace, login.username = username ∧ login.session = id := by
  obtain ⟨earlier, entry, later, login, rfl, signedIn, owner, issued, _⟩ := holds
  exact ⟨login, List.mem_filterMap.mpr ⟨entry, by simp, signedIn⟩, owner, issued⟩

end

section

variable {start sessions next final : Sessions} {action : Action} {answer : Answer}
  {trace : List (Action × Answer)}

theorem Step.names_subset (step : Step sessions action answer next) :
    sessions.names ⊆ next.names := by
  cases step with
  | login username password login owner known issued => exact List.Subset.refl _
  | register username password login owner fresh issued => exact List.subset_append_left _ _
  | registerUnissued username password failure fresh => exact List.subset_append_left _ _
  | logout visitor cookie =>
      unfold dismiss
      split <;> exact List.Subset.refl _
  | loginRefused username password failure => exact List.Subset.refl _
  | registerRefused username password failure => exact List.Subset.refl _
  | resolve cookie => exact List.Subset.refl _
  | appendsFail fault => exact List.Subset.refl _

theorem Step.signed_in {login : Login} (step : Step sessions action answer next)
    (signedIn : loginIn answer = some login) :
    login.username ∈ next.names ∧ login.session ≠ "" ∧
      next.session login.username = login.session := by
  cases step with
  | login username password granted owner known issued =>
      obtain rfl : granted = login := Option.some_inj.mp signedIn
      subst owner
      exact ⟨known, issued, give_self _ _ _⟩
  | register username password granted owner fresh issued =>
      obtain rfl : granted = login := Option.some_inj.mp signedIn
      subst owner
      exact ⟨by simp [give, join], issued, give_self _ _ _⟩
  | loginRefused username password failure => simp [loginIn] at signedIn
  | registerUnissued username password failure fresh => simp [loginIn] at signedIn
  | registerRefused username password failure => simp [loginIn] at signedIn
  | resolve cookie => simp [loginIn] at signedIn
  | logout visitor cookie => simp [loginIn] at signedIn
  | appendsFail fault => simp [loginIn] at signedIn

/-- A step leaves the session of an account that it does not concern. -/
theorem Step.frame {username : String} (step : Step sessions action answer next)
    (apart : ¬ Concerns username (action, answer)) :
    next.session username = sessions.session username := by
  rw [Concerns, not_or, not_exists] at apart
  cases step with
  | login signer password login owner known issued =>
      have other : username ≠ signer := fun same => apart.1 login ⟨rfl, owner.trans same.symm⟩
      exact give_other _ _ other
  | register signer password login owner fresh issued =>
      have other : username ≠ signer := fun same => apart.1 login ⟨rfl, owner.trans same.symm⟩
      exact give_other _ _ other
  | logout visitor cookie =>
      unfold dismiss
      split
      · rfl
      · rename_i name leaves
        have other : username ≠ name := fun same => apart.2 (same ▸ leaves)
        exact give_other _ _ other
  | loginRefused signer password failure => rfl
  | registerUnissued signer password failure fresh => rfl
  | registerRefused signer password failure => rfl
  | resolve cookie => rfl
  | appendsFail fault => rfl

theorem Step.signed_out {username : String} (step : Step sessions action answer next)
    (leaves : leaver action = some username) : next.session username = "" := by
  cases step with
  | logout visitor cookie =>
      have named : visitor.username = some username := leaves
      simp [dismiss, named, give]
  | login signer password login owner known issued => simp [leaver] at leaves
  | register signer password login owner fresh issued => simp [leaver] at leaves
  | loginRefused signer password failure => simp [leaver] at leaves
  | registerUnissued signer password failure fresh => simp [leaver] at leaves
  | registerRefused signer password failure => simp [leaver] at leaves
  | resolve cookie => simp [leaver] at leaves
  | appendsFail fault => simp [leaver] at leaves

/-- A session text is from before the run, or empty, or the id of the latest sign-in. -/
theorem Run.session_cases (run : Run start trace final) (username : String) :
    final.session username = start.session username ∨ final.session username = "" ∨
      Holds trace username (final.session username) := by
  induction run with
  | nil => exact .inl rfl
  | @snoc trace sessions next action answer earlier step ih =>
      by_cases concerned : Concerns username (action, answer)
      · rcases concerned with ⟨login, signedIn, rfl⟩ | leaves
        · rw [(step.signed_in signedIn).2.2]
          exact .inr (.inr (holds_of_login trace signedIn))
        · exact .inr (.inl (step.signed_out leaves))
      · rw [step.frame concerned]
        exact ih.imp_right (Or.imp_right fun holds => holds.snoc concerned)

theorem Run.holds_session {username id : String} (run : Run start trace final)
    (holds : Holds trace username id) :
    username ∈ final.names ∧ id ≠ "" ∧ final.session username = id := by
  induction run with
  | nil =>
      obtain ⟨login, member, _⟩ := holds.login_mem
      simp [logins] at member
  | @snoc trace sessions next action answer earlier step ih =>
      rcases holds.cases_snoc with ⟨login, signedIn, rfl, rfl⟩ | ⟨before, apart⟩
      · exact step.signed_in signedIn
      · obtain ⟨known, issued, session⟩ := ih before
        exact ⟨step.names_subset known, issued, (step.frame apart).trans session⟩

theorem Run.issued_ne_empty {login : Login} (run : Run start trace final)
    (member : login ∈ logins trace) : login.session ≠ "" := by
  induction run with
  | nil => simp [logins] at member
  | @snoc trace sessions next action answer earlier step ih =>
      rw [logins, List.filterMap_append, List.mem_append] at member
      rcases member with before | last
      · exact ih before
      · obtain ⟨entry, same, signedIn⟩ := List.mem_filterMap.mp last
        rw [List.mem_singleton.mp same] at signedIn
        exact (step.signed_in signedIn).2.1

theorem lookup_some {sessions : Sessions} {username id : String} (issued : id ≠ "")
    (found : sessions.lookup (some id) = ⟨some username⟩) :
    username ∈ sessions.names ∧ sessions.session username = id := by
  simp only [lookup, Option.bind_some, if_neg issued, Visitor.mk.injEq] at found
  exact ⟨List.mem_of_find?_eq_some found, by simpa using List.find?_some found⟩

theorem lookup_is_authenticated {sessions : Sessions} {username id : String}
    (known : username ∈ sessions.names) (issued : id ≠ "")
    (session : sessions.session username = id) :
    (sessions.lookup (some id)).isAuthenticated = true := by
  simp only [Visitor.isAuthenticated, lookup, Option.bind_some, if_neg issued, List.find?_isSome]
  exact ⟨username, known, by simpa using session⟩

theorem Holds.owner_unique {left right id : String}
    (once : ((logins trace).map Login.session).Nodup) (holds : Holds trace left id)
    (same : Holds trace right id) : left = right := by
  obtain ⟨first, member, rfl, issued⟩ := holds.login_mem
  obtain ⟨second, otherMember, rfl, sameId⟩ := same.login_mem
  rw [List.inj_on_of_nodup_map once member otherMember (issued.trans sameId.symm)]

/-- As long as every id is issued once, and no session from before the run has it, a cookie with
an issued id stands for the account that holds it. -/
theorem Run.lookup_issued (run : Run start trace final)
    (once : ((logins trace).map Login.session).Nodup)
    (unused : ∀ login ∈ logins trace, ∀ username, start.session username ≠ login.session)
    {login : Login} (member : login ∈ logins trace) (username : String) :
    final.lookup (some login.session) = ⟨some username⟩ ↔
      Holds trace username login.session := by
  have issued := run.issued_ne_empty member
  have holds_of_session : ∀ name, final.session name = login.session →
      Holds trace name login.session := by
    intro name session
    rcases run.session_cases name with before | empty | holds
    · exact absurd (before.symm.trans session) (unused login member name)
    · exact absurd (session.symm.trans empty) issued
    · rwa [session] at holds
  constructor
  · intro found
    exact holds_of_session username (lookup_some issued found).2
  · intro holds
    obtain ⟨known, _, session⟩ := run.holds_session holds
    obtain ⟨name, found⟩ := Option.isSome_iff_exists.mp
      (lookup_is_authenticated known issued session)
    have answer : final.lookup (some login.session) = ⟨some name⟩ := by rw [← found]
    have nameHolds := holds_of_session name (lookup_some issued answer).2
    rw [answer, Holds.owner_unique once nameHolds holds]

end

end Sessions

end Accounts
