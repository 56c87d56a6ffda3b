/-
# Searching for parts of titles

A room is listed for a search exactly if the text, trimmed and in lower case, is a part of the
lower case of one of its titles. Hence a room is found by every part of a title in which each
capital sigma ends a word exactly if it does so in the title, whatever the case of ASCII letters. A
part that cuts a word off right after a capital sigma need not find the room.
-/

import WatchParty.Proofs.Paging
import WatchParty.Proofs.Text.Lowercase

namespace WatchParty

open Text

/-- The titles by which a room can be found: its own and its content's. -/
def Snapshot.titles (room : Snapshot) : List String := [room.title, room.content.title]

namespace RoomQuery

variable {query : RoomQuery} {text : String} {room : Snapshot}

theorem titleContains_iff {needle : List Char} {title : String} :
    titleContains needle title = true ↔ needle <:+: lowercaseChars title.toList :=
  occursIn_iff

/-- A room is one of those searched for if the text is a part of one of its titles, after blank
characters around it have been removed and everything has been put into lower case. -/
theorem accepts_iff (hsearch : query.search = some text) : query.accepts room = true ↔
    ∃ title ∈ room.titles,
      lowercaseChars (trimChars text.toList) <:+: lowercaseChars title.toList := by
  have hneedle : query.needle? =
      (some (lowercaseChars (trimChars text.toList))).filter (!·.isEmpty) := by
    rw [needle?, hsearch, Option.map_some]
  rw [accepts, hneedle]
  generalize lowercaseChars (trimChars text.toList) = needle
  cases needle with
  | nil =>
      -- Nothing is a part of every title.
      simp [Option.filter_some, Snapshot.titles]
  | cons c rest => simp [Option.filter_some, Snapshot.titles, titleContains_iff]

end RoomQuery

namespace Venue

variable {venue : Venue}

/-- A room that is there is listed for a search if it is one of those searched for. -/
theorem Sound.snapshot_mem_all (hsound : venue.Sound) {number : RoomId} {room : Room}
    (hlive : venue.lobby.liveRoom? number = some room) (now : Instant) (query : RoomQuery) :
    room.view.snapshot now ∈ Listing.all venue.lobby now query ↔
      query.accepts (room.view.snapshot now) = true := by
  have hroom : venue.lobby.rooms.get? number = some room := by
    rw [← hsound.liveRoom?_eq, hlive]
  have hstate := Lobby.states_get? hroom
  have hid : room.state.data.id = number := hsound.states_numbered _ _ hstate
  have hsnapshot : room.view.snapshot now = room.state.snapshot now := by
    rw [hsound.view_eq hroom, RoomState.snapshot]
  rw [hsound.mem_all, hsnapshot]
  constructor
  · rintro ⟨_, -, -, haccepts⟩
    exact haccepts
  · refine fun haccepts => ⟨room.state, ?_, rfl, haccepts⟩
    rw [← hid] at hstate
    exact hstate

/-- Searching finds the rooms in whose titles the text occurs. The first part is the rule for any
text. By the second part, a room is found by every part of a title, up to the case of ASCII letters,
that keeps its capital sigmas; by the third part this is so for every part without them. What is on
the page of such a search is what is listed. -/
theorem Reachable.search_finds (hreach : venue.Reachable) {number : RoomId} {room : Room}
    (hlive : venue.lobby.liveRoom? number = some room) (now : Instant) (sort : RoomSort)
    (text : String) :
    let query : RoomQuery := { search := some text, sort }
    let shown := room.view.snapshot now
    let listed := Listing.all venue.lobby now query
    (shown ∈ listed ↔ ∃ title ∈ [shown.title, shown.content.title],
      lowercaseChars (trimChars text.toList) <:+: lowercaseChars title.toList) ∧
    (∀ title ∈ [shown.title, shown.content.title], ∀ before part after,
      title.toList = before ++ part ++ after → KeepsSigmas before part after →
        text.toList.map Char.toLower = part.map Char.toLower → shown ∈ listed) ∧
    (∀ title ∈ [shown.title, shown.content.title], ∀ part, part <:+: title.toList → 'Σ' ∉ part →
      text.toList.map Char.toLower = part.map Char.toLower → shown ∈ listed) ∧
    (Listing.page venue.lobby now query).rooms = listed := by
  intro query shown listed
  have hrule : shown ∈ listed ↔ ∃ title ∈ shown.titles,
      lowercaseChars (trimChars text.toList) <:+: lowercaseChars title.toList :=
    (hreach.sound.snapshot_mem_all hlive now query).trans (RoomQuery.accepts_iff rfl)
  have hfound : ∀ title ∈ shown.titles, ∀ before part after,
      title.toList = before ++ part ++ after → KeepsSigmas before part after →
        text.toList.map Char.toLower = part.map Char.toLower → shown ∈ listed := by
    intro title htitle before part after hpart hsigmas halike
    refine hrule.mpr ⟨title, htitle, ?_⟩
    rw [hpart]
    exact hsigmas.found halike
  refine ⟨hrule, hfound, fun title htitle part hpart hnone halike => ?_, rfl⟩
  obtain ⟨before, after, hpart⟩ := hpart
  exact hfound title htitle before part after hpart.symm (keepsSigmas_of_not_mem hnone) halike

/-- Somebody opens a room with a Greek title. -/
def odyssey : Venue :=
  (opening {} 0 .empty).follow
    [.alter (.addUser "ada" "Ada"), .alter (.addContent "The Odyssey" none),
      .ask (.createRoom 1 2 (some "ΟΔΥΣΣΕΙΑ"))]

theorem odyssey_reachable : odyssey.Reachable := ⟨{}, 0, _, by decide, rfl⟩

/-- The room is found by a part of its content's title, in another case. -/
theorem odyssey_search_finds :
    ∃ room, odyssey.lobby.liveRoom? 3 = some room ∧
      room.view.snapshot 0 ∈ Listing.all odyssey.lobby 0 { search := some " oDYSS" } := by
  have hthere : (odyssey.lobby.liveRoom? 3).isSome = true := by decide +kernel
  have hall : ∀ room ∈ odyssey.lobby.liveRoom? 3, room.view.content.title = "The Odyssey" := by
    decide +kernel
  obtain ⟨room, hlive⟩ := Option.isSome_iff_exists.mp hthere
  obtain ⟨-, -, hfound, -⟩ := odyssey_reachable.search_finds hlive 0 .createdAt " oDYSS"
  have htitle : "The Odyssey" ∈ [room.view.data.title, room.view.content.title] :=
    List.mem_cons_of_mem _ (List.mem_singleton.mpr (hall room hlive).symm)
  refine ⟨room, hlive, hfound "The Odyssey" htitle " Odyss".toList ?_ ?_ ?_⟩
  · decide +kernel
  · decide +kernel
  · decide +kernel

/-- The part "ΟΔΥΣ" of the title does not find the room, because on its own its sigma ends a
word. -/
theorem odyssey_not_found :
    odyssey.Reachable ∧ "ΟΔΥΣ".toList <:+: "ΟΔΥΣΣΕΙΑ".toList ∧
      (odyssey.lobby.liveRoom? 3).map (·.data.title) = some "ΟΔΥΣΣΕΙΑ" ∧
      Listing.all odyssey.lobby 0 { search := some "ΟΔΥΣ" } = [] := by
  refine ⟨odyssey_reachable, ?_, ?_, ?_⟩
  · decide +kernel
  · decide +kernel
  · decide +kernel

end Venue

end WatchParty
