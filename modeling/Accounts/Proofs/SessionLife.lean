import Mathlib.Data.List.Find
import Mathlib.Data.List.Induction
import Accounts.Proofs.Sessions

/-!
# The life of a session

Seen from outside, the service keeps one session text for every name: the
machine that does just that makes the same steps with the same answers.
-/

namespace Accounts

open Service (Action Answer)

namespace Store

def sessionIn (rows : List Account) (username : String) : String :=
  ((rows.find? fun row => row.username == username).map Account.session).getD ""

def sessions (store : Store) : Sessions := ⟨store.usernames, sessionIn store.rows⟩

theorem session_in_of_mem {rows : List Account} {row : Account}
    (distinct : (rows.map Account.username).Nodup) (member : row ∈ rows) :
    sessionIn rows row.username = row.session := by
  rw [sessionIn, find_of_mem distinct member]
  rfl

theorem session_in_replace_session {username : String} (session : String) {rows : List Account}
    (known : username ∈ rows.map Account.username ∨ session = "") :
    sessionIn (replaceSession username session rows) =
      Function.update (sessionIn rows) username session := by
  funext name
  rw [sessionIn, find_replace_session]
  by_cases same : name = username
  · subst same
    rw [Function.update_self]
    cases found : rows.find? fun row => row.username == name with
    | some row => simp
    | none =>
        rcases known with member | empty
        · obtain ⟨row, member, named⟩ := List.mem_map.mp member
          exact absurd (List.find?_eq_none.mp found row member) (by simp [named])
        · exact empty.symm
  · rw [Function.update_of_ne same]
    simp [same, sessionIn]

theorem sessions_replace_session (store : Store) {username : String} (session : String)
    (known : username ∈ store.usernames ∨ session = "") (journal : List Event) :
    sessions { store with journal, rows := replaceSession username session store.rows } =
      store.sessions.give username session := by
  have names : (replaceSession username session store.rows).map Account.username =
      store.usernames := usernames_of_credentials (replace_session_credentials _ _ _)
  simp only [sessions, usernames, Sessions.give, names, session_in_replace_session session known]

theorem session_in_append {rows : List Account} {account : Account}
    (signedOut : account.session = "") : sessionIn (rows ++ [account]) = sessionIn rows := by
  funext name
  rw [sessionIn, sessionIn, List.find?_append]
  cases rows.find? fun row => row.username == name with
  | some row => rfl
  | none =>
      by_cases named : account.username = name
      · simp [named, signedOut]
      · simp [named]

theorem lookup_sessions {store : Store} (distinct : store.usernames.Nodup)
    (cookie : Option String) :
    store.sessions.lookup cookie = ⟨(cookie.bind store.findBySession).map Account.username⟩ := by
  cases cookie with
  | none => rfl
  | some id =>
      simp only [Sessions.lookup, Option.bind_some, find_by_session_eq]
      split
      · rfl
      · have same : store.rows.find? (fun row => sessionIn store.rows row.username == id) =
            store.rows.find? fun row => row.session == id := by
          apply List.find?_congr
          intro row member
          rw [session_in_of_mem distinct member]
        rw [sessions, usernames, List.find?_map, ← same]
        rfl

end Store

namespace Service

theorem resolve_eq_lookup {service : Service} (distinct : service.store.usernames.Nodup)
    (cookie : Option String) : service.resolve cookie = service.store.sessions.lookup cookie := by
  rw [Store.lookup_sessions distinct, resolve]
  cases cookie.bind service.store.findBySession <;> rfl

theorem LoginCase.step {service : Service} {username password : String}
    {result : Except Failure Login × Service}
    (ended : LoginCase service username password result) :
    Sessions.Step service.store.sessions (.login username password) (.signIn result.1)
      result.2.store.sessions := by
  cases ended with
  | missing reason => exact .loginRefused username password _
  | unknown journal given absent => exact .loginRefused username password _
  | wrong journal account given found refuted => exact .loginRefused username password _
  | dry journal account given found proved failure failed =>
      exact .loginRefused username password _
  | signedIn journal account given found proved bytes drawn =>
      obtain ⟨name, member⟩ := found_username found
      have known : username ∈ service.store.usernames := List.mem_map.mpr ⟨account, member, name⟩
      rw [Store.sessions_replace_session service.store _ (.inl known)]
      exact .login username password _ rfl known (session_of_ne_empty bytes.toList)

theorem enrol_sessions {service : Service} {account : Account} (journal : List Event)
    (signedOut : account.session = "") :
    (service.enrol account journal).store.sessions =
      service.store.sessions.join account.username := by
  simp [enrol, Store.sessions, Store.usernames, Sessions.join, Store.session_in_append signedOut]

theorem RegisterCase.step {service : Service} {username password : String}
    {result : Except Failure Login × Service}
    (ended : RegisterCase service username password result) :
    Sessions.Step service.store.sessions (.register username password) (.signIn result.1)
      result.2.store.sessions := by
  cases ended with
  | refused failure journal content tried entropy kept early =>
      exact .registerRefused username password failure
  | enrolled journal salt drawn checked given fresh signIn =>
      have entry := signIn.step
      rw [enrol_sessions journal rfl] at entry
      generalize result.2.store.sessions = after at entry ⊢
      generalize result.1 = outcome at entry ⊢
      cases entry with
      | login _ _ login owner known issued =>
          exact .register username password login owner fresh issued
      | loginRefused _ _ failure => exact .registerUnissued username password failure fresh

theorem logout_sessions (service : Service) (visitor : Visitor) :
    (service.logout visitor).2.2.store.sessions = service.store.sessions.dismiss visitor := by
  obtain ⟨journal, ended⟩ := service.logout_case visitor
  rw [ended]
  unfold rowsWithout Sessions.dismiss
  cases visitor.username with
  | none => rfl
  | some username => exact Store.sessions_replace_session service.store "" (.inr rfl) journal

theorem act_step {service : Service} (distinct : service.store.usernames.Nodup) (action : Action) :
    Sessions.Step service.store.sessions action (service.act action).1
      (service.act action).2.store.sessions := by
  cases action with
  | register username password => exact (service.register_case username password).step
  | login username password => exact (service.login_case username password).step
  | resolve cookie =>
      simp only [act, resolve_eq_lookup distinct]
      exact .resolve cookie
  | logout visitor =>
      have left := service.logout_sessions visitor
      obtain ⟨journal, ended⟩ := service.logout_case visitor
      simp only [act, ended] at left ⊢
      rw [left]
      exact .logout visitor _
  | appendsFail fault => exact .appendsFail fault

theorem run_of_calls {service : Service} (distinct : service.store.usernames.Nodup)
    (actions : List Action) :
    Sessions.Run service.store.sessions (service.trace actions)
      (service.after actions).store.sessions := by
  induction actions using List.reverseRecOn with
  | nil => exact .nil
  | append_singleton actions action ih =>
      obtain ⟨added, grown⟩ := service.after_grown actions
      rw [trace_append, after_append]
      exact .snoc ih (act_step (grown.distinct distinct) action)

theorem session_in_ne {rows : List Account} {id : String} (issued : id ≠ "")
    (unused : ∀ row ∈ rows, row.session ≠ id) (username : String) :
    Store.sessionIn rows username ≠ id := by
  unfold Store.sessionIn
  cases found : rows.find? fun row => row.username == username with
  | none => exact issued.symm
  | some row => exact unused row (List.mem_of_find?_eq_some found)

/-- The service goes through the steps of the machine with the machine's answers, whatever table it
starts with. So the id of a sign-in stands for an account right away; and if all ids that are
issued differ from one another and from the sessions of the start, an issued id stands for exactly
the account that holds it. -/
theorem calls_refine_sessions (backing : Backing) (capacity : Nat) (earlier : List Store.Action)
    (settings : Settings) (entropy : Entropy) (actions : List Action) :
    let start : Service := ⟨settings, (Store.load backing capacity).run earlier, entropy⟩
    let trace := start.trace actions
    let live := start.after actions
    Sessions.Run start.store.sessions trace live.store.sessions ∧
      (∀ row ∈ live.store.rows, live.store.sessions.session row.username = row.session) ∧
      (∀ cookie, live.resolve cookie = live.store.sessions.lookup cookie) ∧
      live.resolve none = .anonymous ∧ live.resolve (some "") = .anonymous ∧
      (∀ action login, (live.act action).1 = .signIn (.ok login) →
        ((live.act action).2.resolve (some login.session)).isAuthenticated = true) ∧
      (((Sessions.logins trace).map Login.session).Nodup →
        (∀ login ∈ Sessions.logins trace, ∀ row ∈ start.store.rows, row.session ≠ login.session) →
        ∀ login ∈ Sessions.logins trace, ∀ username,
          live.resolve (some login.session) = ⟨some username⟩ ↔
            Sessions.Holds trace username login.session) := by
  intro start trace live
  have startDistinct : start.store.usernames.Nodup :=
    (Store.grown_run _ earlier).distinct (Store.load_nodup backing capacity)
  have distinct : live.store.usernames.Nodup := by
    obtain ⟨added, grown⟩ := start.after_grown actions
    exact grown.distinct startDistinct
  have run := run_of_calls startDistinct actions
  have resolves := fun cookie => resolve_eq_lookup distinct cookie
  have stored : ∀ row ∈ live.store.rows,
      live.store.sessions.session row.username = row.session := by
    intro row member
    exact Store.session_in_of_mem distinct member
  refine ⟨run, stored, resolves, rfl, rfl, ?_, ?_⟩
  · intro action login answered
    have step := act_step distinct action
    rw [answered] at step
    obtain ⟨known, issued, session⟩ := step.signed_in rfl
    obtain ⟨added, grown⟩ := live.act_grown action
    rw [resolve_eq_lookup (grown.distinct distinct)]
    exact Sessions.lookup_is_authenticated known issued session
  · intro once unused login member username
    rw [resolves]
    apply run.lookup_issued once _ member
    intro other otherMember
    exact session_in_ne (run.issued_ne_empty otherMember) (unused other otherMember)

/-- Two sign-ins of one account, with a sign-out between them. -/
def bobsCalls : List Action :=
  [.register "bob" "secret", .logout ⟨some "bob"⟩, .login "bob" "secret"]

theorem bobs_calls_refine_sessions :
    let start : Service := ⟨⟨1, 1, "session"⟩, (Store.load Store.mixedBacking 3).run [],
      .ofSequence fun index => UInt8.ofNat index⟩
    let ids := (Sessions.logins (start.trace bobsCalls)).map Login.session
    (ids.Nodup ∧ ids.length = 2 ∧ ∀ login ∈ Sessions.logins (start.trace bobsCalls),
        ∀ row ∈ start.store.rows, row.session ≠ login.session) ∧
      ∀ login ∈ Sessions.logins (start.trace bobsCalls), ∀ username,
        (start.after bobsCalls).resolve (some login.session) = ⟨some username⟩ ↔
          Sessions.Holds (start.trace bobsCalls) username login.session := by
  intro start ids
  have fresh : ids.Nodup ∧ ids.length = 2 ∧ ∀ login ∈ Sessions.logins (start.trace bobsCalls),
      ∀ row ∈ start.store.rows, row.session ≠ login.session := by decide +kernel
  obtain ⟨_, _, _, _, _, _, issued⟩ := calls_refine_sessions Store.mixedBacking 3 []
    ⟨1, 1, "session"⟩ (.ofSequence fun index => UInt8.ofNat index) bobsCalls
  exact ⟨fresh, issued fresh.1 fresh.2.2⟩

end Service

end Accounts
