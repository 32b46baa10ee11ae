import DecompileServer.Http.Hub

/-!
# The directory of sessions

Opening a session adds it under its id and leaves every other one in its place; talking to a session
changes that session alone.
-/
namespace DecompileServer.Http.Hub

variable {hub : Hub} {id other : String} {number another : Nat} {session : Session}

/-- An id that has been taken out is not found. -/
theorem lookup_filter_self (directory : List (String × Nat)) :
    (directory.filter (·.1 ≠ id)).lookup id = none := by
  induction directory with
  | nil => rfl
  | cons entry rest ih =>
    by_cases same : entry.1 = id
    · simpa [same] using ih
    · have unequal : (id == entry.1) = false := beq_eq_false_iff_ne.mpr (Ne.symm same)
      rw [List.filter_cons_of_pos (by simpa using same), List.lookup_cons, unequal]
      exact ih

/-- Any other id is found as before. -/
theorem lookup_filter_of_ne (distinct : other ≠ id) (directory : List (String × Nat)) :
    (directory.filter (·.1 ≠ id)).lookup other = directory.lookup other := by
  induction directory with
  | nil => rfl
  | cons entry rest ih =>
    by_cases same : entry.1 = id
    · have unequal : (other == entry.1) = false := by simpa [same] using distinct
      rw [List.filter_cons_of_neg (by simpa using same), ih, List.lookup_cons, unequal]
    · rw [List.filter_cons_of_pos (by simpa using same), List.lookup_cons, List.lookup_cons, ih]

/-- A session is found under the id with which it has been opened. -/
@[simp] theorem find?_add_self : (hub.add id).find? id = some hub.sessions.length := by
  rw [find?, add, List.lookup_append, lookup_filter_self]
  simp

/-- The other sessions are found as before. -/
theorem find?_add_of_ne (distinct : other ≠ id) : (hub.add id).find? other = hub.find? other := by
  have unequal : (other == id) = false := beq_eq_false_iff_ne.mpr distinct
  rw [find?, add, List.lookup_append, lookup_filter_of_ne distinct, List.lookup_cons, unequal]
  simp [find?]

/-- An id that has been taken out of the directory is not found. -/
@[simp] theorem find?_forget_self : (hub.forget id).find? id = none :=
  lookup_filter_self hub.directory

/-- The other sessions are found as before. -/
theorem find?_forget_of_ne (distinct : other ≠ id) : (hub.forget id).find? other = hub.find? other :=
  lookup_filter_of_ne distinct hub.directory

/-- A session that has been opened is fresh. -/
@[simp] theorem session_add_self : (hub.add id).session hub.sessions.length = {} := by
  simp [session, add]

/-- The other sessions are as before. -/
theorem session_add_of_lt (known : number < hub.sessions.length) :
    (hub.add id).session number = hub.session number := by
  simp [session, add, List.getElem?_append_left known]

/-- There is one session more. -/
@[simp] theorem length_sessions_add :
    (hub.add id).sessions.length = hub.sessions.length + 1 := by
  simp [add]

/-- A session is replaced. -/
theorem session_setSession_self (known : number < hub.sessions.length) :
    (hub.setSession number session).session number = session := by
  simp [Hub.session, setSession, known]

/-- The other sessions are as before. -/
theorem session_setSession_of_ne (distinct : number ≠ another) :
    (hub.setSession number session).session another = hub.session another := by
  simp [Hub.session, setSession, List.getElem?_set_ne distinct]

/-- There are as many sessions as before. -/
@[simp] theorem length_sessions_setSession :
    (hub.setSession number session).sessions.length = hub.sessions.length := by
  simp [setSession]

/-- What is done after the directory has been consulted leaves it. -/
@[simp] theorem find?_perform (service : Service) (errand : Errand) :
    (hub.perform service errand).2.find? id = hub.find? id := by
  cases errand <;> rfl

/-- There are as many sessions as before. -/
@[simp] theorem length_sessions_perform (service : Service) (errand : Errand) :
    (hub.perform service errand).2.sessions.length = hub.sessions.length := by
  cases errand <;> simp [perform]

/-- A response names the session. -/
@[simp] theorem session_responseTo (id : String) (turn : Turn) :
    (responseTo id turn).session = some id := by
  unfold responseTo
  split <;> rfl

/-- The response to a message over which the server breaks down. -/
theorem responseTo_of_brokeDown (id : String) {turn : Turn} (silent : turn.reply = none)
    (broken : turn.brokeDown = true) :
    responseTo id turn = { status := 500, session := some id } := by
  rw [responseTo, silent]
  dsimp only
  rw [if_pos broken]

end DecompileServer.Http.Hub
