/-
# What operations come to

An operation is judged by its answer and by the venue it leaves. What it writes into the journal is
left open here: no operation reads the journal, and `Venue.Leads` says what an operation comes to
whatever the journal holds. The rules below follow the notation of operations, one rule for each way
of putting them together, and one for each of the primitive operations.

Calls on a database are followed only as far as it has no faults. Then a call does to the rows what
the store says.
-/

import WatchParty.Venue

namespace WatchParty

open Operation

variable {α β : Type}

namespace Venue

/-- The rows that a venue's database holds. -/
abbrev store (venue : Venue) : Store := venue.database.store

/-- The venue with other rows. -/
def withStore (venue : Venue) (store : Store) : Venue :=
  { venue with database := { venue.database with store } }

/-- The venue with another lobby. -/
def withLobby (venue : Venue) (lobby : Lobby) : Venue := { venue with lobby }

/-- An operation comes to an answer and a next venue, apart from what is written into the
journal. -/
def Leads (venue : Venue) (operation : Operation α) (answer : Except RoomError α) (next : Venue) :
    Prop :=
  ∀ journal, ∃ journal',
    { venue with journal }.run operation = (answer, { next with journal := journal' })

variable {venue middle next : Venue} {operation : Operation α} {answer : Except RoomError α}
  {continuation : α → Operation β} {answer' : Except RoomError β} {value : α} {error : RoomError}

theorem run_bind (hrun : venue.run operation = (.ok value, middle)) :
    venue.run (operation >>= continuation) = middle.run (continuation value) := by
  unfold run at hrun ⊢
  cases hresult : operation venue with
  | ok value' middle' =>
      have hbind : (operation >>= continuation) venue = continuation value' middle' := by
        show EStateM.bind operation continuation venue = _
        rw [EStateM.bind, hresult]
      rw [hresult] at hrun
      cases hrun
      rw [hbind]
  | error error middle' =>
      rw [hresult] at hrun
      cases hrun

theorem run_bind_error (hrun : venue.run operation = (.error error, middle)) :
    venue.run (operation >>= continuation) = (.error error, middle) := by
  unfold run at hrun ⊢
  cases hresult : operation venue with
  | ok value middle' =>
      rw [hresult] at hrun
      cases hrun
  | error error' middle' =>
      have hbind : (operation >>= continuation) venue = .error error' middle' := by
        show EStateM.bind operation continuation venue = _
        rw [EStateM.bind, hresult]
      rw [hresult] at hrun
      cases hrun
      rw [hbind]

namespace Leads

/-- The answer and the venue of a run, read off from what the operation comes to. -/
theorem run_eq (hleads : venue.Leads operation answer next) :
    ∃ journal, venue.run operation = (answer, { next with journal }) :=
  hleads venue.journal

theorem answer_eq (hleads : venue.Leads operation answer next) :
    (venue.run operation).1 = answer := by
  obtain ⟨journal, hrun⟩ := hleads.run_eq
  rw [hrun]

theorem lobby_eq (hleads : venue.Leads operation answer next) :
    (venue.run operation).2.lobby = next.lobby := by
  obtain ⟨journal, hrun⟩ := hleads.run_eq
  rw [hrun]

theorem database_eq (hleads : venue.Leads operation answer next) :
    (venue.run operation).2.database = next.database := by
  obtain ⟨journal, hrun⟩ := hleads.run_eq
  rw [hrun]

theorem now_eq (hleads : venue.Leads operation answer next) :
    (venue.run operation).2.now = next.now := by
  obtain ⟨journal, hrun⟩ := hleads.run_eq
  rw [hrun]

theorem pure (value : α) : venue.Leads (pure value) (.ok value) venue :=
  fun journal => ⟨journal, rfl⟩

theorem throw (error : RoomError) : venue.Leads (throw error : Operation α) (.error error) venue :=
  fun journal => ⟨journal, rfl⟩

theorem bind (hfirst : venue.Leads operation (.ok value) middle)
    (hrest : middle.Leads (continuation value) answer' next) :
    venue.Leads (operation >>= continuation) answer' next := by
  intro journal
  obtain ⟨journal', hrun⟩ := hfirst journal
  rw [run_bind hrun]
  exact hrest journal'

theorem bind_error (hfirst : venue.Leads operation (.error error) middle) :
    venue.Leads (operation >>= continuation) (.error error) middle := by
  intro journal
  obtain ⟨journal', hrun⟩ := hfirst journal
  exact ⟨journal', run_bind_error hrun⟩

/-- Looking at the venue shows it with whatever the journal holds. -/
theorem get_bind {continuation : Venue → Operation β}
    (hrest : ∀ journal, venue.Leads (continuation { venue with journal }) answer' next) :
    venue.Leads (get >>= continuation) answer' next :=
  fun journal => hrest journal journal

theorem map {f : α → β} (hleads : venue.Leads operation (.ok value) next) :
    venue.Leads (f <$> operation) (.ok (f value)) next := by
  intro journal
  obtain ⟨journal', hrun⟩ := hleads journal
  refine ⟨journal', ?_⟩
  rw [← bind_pure_comp, run_bind hrun]
  rfl

theorem map_error {f : α → β} (hleads : venue.Leads operation (.error error) next) :
    venue.Leads (f <$> operation) (.error error) next := by
  intro journal
  obtain ⟨journal', hrun⟩ := hleads journal
  exact ⟨journal', by rw [← bind_pure_comp, run_bind_error hrun]⟩

/-- The answer may be put in another way. -/
theorem map_answer (hleads : venue.Leads operation answer next) (f : α → β) :
    venue.Leads (f <$> operation) (answer.map f) next := by
  cases answer with
  | ok value => exact hleads.map
  | error error => exact hleads.map_error

theorem outcome (hleads : venue.Leads operation answer next) :
    venue.Leads (outcome operation) (.ok answer) next := by
  intro journal
  obtain ⟨journal', hrun⟩ := hleads journal
  refine ⟨journal', ?_⟩
  unfold run Operation.outcome at *
  cases hresult : operation { venue with journal } with
  | ok value middle =>
      rw [hresult] at hrun
      cases hrun
      rfl
  | error error middle =>
      rw [hresult] at hrun
      cases hrun
      rfl

theorem note (level : Level) (text : String) (origin : Origin) :
    venue.Leads (note level text origin) (.ok ()) venue :=
  fun _ => ⟨_, rfl⟩

theorem changeLobby (change : Lobby → Lobby) :
    venue.Leads (changeLobby change) (.ok ()) (venue.withLobby (change venue.lobby)) :=
  fun journal => ⟨journal, rfl⟩

theorem publish (event : RoomEvent) :
    venue.Leads (publish event) (.ok ())
      (venue.withLobby
        { venue.lobby with topics := (venue.lobby.topics.publish event.room event).2 }) :=
  changeLobby _

section Calls

variable {method : StoreMethod} {id : Int} {body : StoreCall α} {store : Store}
  {result : Except StoreError α} {failure : StoreError}

theorem attempt (hcalm : venue.database.faults = [])
    (hbody : body venue.store = (result, store)) :
    venue.Leads (attempt method id body) (.ok result) (venue.withStore store) := by
  intro journal
  refine ⟨journal, ?_⟩
  have hcall : venue.database.call method id body = (result, { venue.database with store }) := by
    simp only [Database.call, hcalm, Fault.strike, hbody]
  show (Except.ok (venue.database.call method id body).1,
    { venue with database := (venue.database.call method id body).2, journal }) = _
  rw [hcall]
  rfl

theorem attempt_error (hcalm : venue.database.faults = [])
    (hbody : body venue.store = (.error failure, venue.store)) :
    venue.Leads (Operation.attempt method id body) (.ok (.error failure)) venue :=
  attempt hcalm hbody

theorem ask (hcalm : venue.database.faults = []) (hbody : body venue.store = (.ok value, store)) :
    venue.Leads (ask method id body) (.ok value) (venue.withStore store) :=
  (attempt hcalm hbody).bind (pure value)

theorem ask_error (hcalm : venue.database.faults = [])
    (hbody : body venue.store = (.error failure, venue.store)) :
    venue.Leads (Operation.ask method id body) (.error (.ofStoreError failure)) venue :=
  (attempt_error hcalm hbody).bind (throw _)

end Calls

end Leads

end Venue

end WatchParty
