/-
# Paths and what they name

The list of all rooms is named by one path only. The path of a room ends in its number, and the
decimal digits of a number stand for themselves, so that the number is read back from the path.
-/

import WatchParty.Http.Route
import WatchParty.Proofs.Cursor
import WatchParty.Proofs.Store

namespace WatchParty

namespace Text

variable {chars : List Char}

/-- An ASCII character is written as one byte. -/
theorem utf8EncodeChar_of_ascii {c : Char} (hascii : c.toNat < 128) :
    String.utf8EncodeChar c = [UInt8.ofNat c.toNat] := by
  rw [String.utf8EncodeChar]
  exact if_pos (Nat.le_of_lt_succ hascii)

/-- A byte that is no percent sign stands for itself. -/
theorem percentDecode_cons {byte : UInt8} (hbyte : byte ≠ 0x25) (rest : List UInt8) :
    percentDecode (byte :: rest) = byte :: percentDecode rest := by
  match rest with
  | [] => rfl
  | [_] => rfl
  | high :: low :: rest => rw [percentDecode, if_neg hbyte]

/-- A text of ASCII characters without percent signs stands for itself. -/
theorem decodePathPart_eq_self (hplain : ∀ c ∈ chars, c.toNat < 128 ∧ c ≠ '%') :
    decodePathPart chars = chars := by
  induction chars with
  | nil => rfl
  | cons c rest ih =>
      obtain ⟨hascii, hpercent⟩ := hplain c List.mem_cons_self
      have hrest := ih fun other hother => hplain other (List.mem_cons_of_mem _ hother)
      have htoNat : (UInt8.ofNat c.toNat).toNat = c.toNat :=
        Nat.mod_eq_of_lt (Nat.lt_trans hascii (by decide))
      have hbyte : UInt8.ofNat c.toNat ≠ 0x25 := by
        intro heq
        have hcode : c.toNat = '%'.toNat := htoNat.symm.trans (congrArg UInt8.toNat heq)
        exact hpercent (Char.toNat_inj.mp hcode)
      have hbegin : beginChar (UInt8.ofNat c.toNat).toNat = ([c], none) := by
        rw [htoNat, beginChar, if_pos hascii, Char.ofNat_toNat]
      calc decodePathPart (c :: rest)
        _ = decodeUtf8 (UInt8.ofNat c.toNat :: percentDecode (encodeUtf8 rest)) := by
            rw [decodePathPart, encodeUtf8, List.flatMap_cons, utf8EncodeChar_of_ascii hascii,
              List.singleton_append, percentDecode_cons hbyte]
            rfl
        _ = c :: decodePathPart rest := by
            rw [decodeUtf8, decodeFrom, hbegin]
            rfl
        _ = c :: rest := by rw [hrest]

theorem plain_of_isDigit {c : Char} (hdigit : isDigit c = true) : c.toNat < 128 ∧ c ≠ '%' := by
  rw [isDigit, Bool.and_eq_true, decide_eq_true_eq, decide_eq_true_eq] at hdigit
  have hlow : '0'.toNat ≤ c.toNat := hdigit.1
  have hhigh : c.toNat ≤ '9'.toNat := hdigit.2
  refine ⟨Nat.lt_of_le_of_lt hhigh (by decide), ?_⟩
  rintro rfl
  exact absurd hlow (by decide)

end Text

namespace Http

open Text

/-- The path of a room. -/
def roomPath (room : RoomId) : String := "/v1/rooms/" ++ identifierText room

theorem ofVersionPath?_eq_rooms {segments : List (List Char)}
    (hroute : Route.ofVersionPath? segments = some .rooms) : segments = ["rooms".toList] := by
  unfold Route.ofVersionPath? at hroute
  split at hroute
  · cases hroute
  · rename_i segment rest
    split at hroute
    · rename_i hrooms
      split at hroute
      · rename_i hend
        rw [hrooms, List.isEmpty_iff.mp hend]
      · rename_i hroom
        unfold Route.ofRoomPath? at hroute
        repeat' split at hroute
        all_goals cases hroute
    · split at hroute <;> cases hroute

/-- The list of all rooms has one path. -/
theorem path_of_rooms {path : List Char} (hroute : Route.ofPath? path = some .rooms) :
    path = "/v1/rooms".toList := by
  have hfields : split '/' path = [[], "v1".toList, "rooms".toList] := by
    unfold Route.ofPath? at hroute
    split at hroute
    · split at hroute <;> cases hroute
    · rename_i version rest hne hfields
      split at hroute
      · rename_i hversion
        rw [hfields, hversion, ofVersionPath?_eq_rooms hroute]
      · cases hroute
    · cases hroute
  rw [← intercalate_split '/' path, hfields]
  decide

/-- The path of a room in its parts. -/
theorem split_roomPath (value : Nat) :
    split '/' (roomPath value).toList =
      [[], "v1".toList, "rooms".toList, Nat.toDigits 10 value] := by
  have hstart : "/v1/rooms/".toList = '/' :: ("v1".toList ++ '/' :: ("rooms".toList ++ ['/'])) :=
    by decide
  have htext : (identifierText value).toList = Nat.toDigits 10 value := toList_natText value
  have hpath : (roomPath value).toList =
      '/' :: ("v1".toList ++ '/' :: ("rooms".toList ++ '/' :: Nat.toDigits 10 value)) :=
    calc (roomPath value).toList
      _ = "/v1/rooms/".toList ++ (identifierText value).toList := String.toList_append
      _ = _ := by
          rw [htext, hstart, List.cons_append, List.append_assoc, List.cons_append,
            List.append_assoc, List.singleton_append]
  rw [hpath, split, if_pos rfl, split_append (by decide), split_append (by decide),
    split_of_not_mem (not_mem_toDigits (by decide))]

/-- The path of a room names the room. -/
theorem route_roomPath (value : Nat) :
    Route.ofPath? (roomPath value).toList = some (.room (Nat.toDigits 10 value)) := by
  have hdigits : Nat.toDigits 10 value ≠ [] := Nat.toDigits_ne_nil
  obtain ⟨digit, digits, hnumber⟩ := List.exists_cons_of_ne_nil hdigits
  rw [Route.ofPath?, split_roomPath, hnumber]
  rfl

/-- The number in the path of a room is read back. -/
theorem roomNumber?_toDigits {value : Nat} (hvalue : value ≤ maxIdentifier) :
    roomNumber? (Nat.toDigits 10 value) = some (value : Int) := by
  have hplain : decodePathPart (Nat.toDigits 10 value) = Nat.toDigits 10 value :=
    decodePathPart_eq_self fun c hc => plain_of_isDigit (isDigit_of_mem hc)
  have hcount : Nat.pow 2 32 / 2 = 2147483648 := rfl
  rw [maxIdentifier] at hvalue
  have hdigits : Nat.toDigits 10 value = integerChars value := rfl
  rw [roomNumber?, hplain, hdigits]
  apply readInt?_integerChars
  · omega
  · omega

/-- The path of a room that can have been handed out leads to the room. -/
theorem exists_route_roomPath {room : RoomId} (hnonneg : 0 ≤ room) (hlast : room ≤ maxIdentifier) :
    ∃ number, Route.ofPath? (roomPath room).toList = some (.room number) ∧
      roomNumber? number = some room := by
  obtain ⟨value, rfl⟩ := Int.eq_ofNat_of_zero_le hnonneg
  exact ⟨_, route_roomPath value, roomNumber?_toDigits hlast⟩

end Http

end WatchParty
