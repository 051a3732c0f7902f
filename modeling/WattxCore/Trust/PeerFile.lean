import WattxCore.Trust.Address
import WattxCore.Trust.TrustScore
import Mathlib.Data.List.Basic

/-!
The peers file. `SavePeersToConfig` writes three comment lines, a blank line and one
`addnode=` line per known peer, each line ended by a newline; `LoadPeersFromConfig` reads the
file with `std::getline` and adds the address of every line that gives one.

* `getLines`, `getLines_linesText`: the lines `std::getline` reads, and that it reads back the
  lines a text was written from when none holds a newline;
* `addnodeAddress`: the address `LoadPeersFromConfig` takes from one line: the line must be
  non-empty, not start with `#`, and hold `addnode=`; the text after the first `addnode=`,
  trimmed, must be non-empty and read as a valid address, the port defaulting to 18888;
* `known_foldl_loadLine`: a load adds exactly the addresses of the file's lines;
* `peer_file_round_trip`: **saving a set of valid addresses, each of which reads back from
  its text and prints without blanks, and loading the file into an empty set gives the set
  back**;
* `loose_addnode_lines`: a line with text before `addnode=`, and one with no port, each add an
  address, though the loader's comment and the file's header give the format as
  `addnode=IP:PORT`.
-/

namespace WattxCore

/-- The text of lines written one after another, each followed by a newline. -/
def linesText (lines : List (List Char)) : List Char := (lines.map (· ++ ['\n'])).flatten

/-- The lines `std::getline` reads from a text: the pieces between newlines, without the empty
piece after a final newline. -/
def getLines (text : List Char) : List (List Char) :=
  let pieces := text.splitOn '\n'
  if pieces.getLast? = some [] then pieces.dropLast else pieces

lemma linesText_eq_intercalate : ∀ ls : List (List Char), linesText ls = ['\n'].intercalate (ls ++ [[]])
  | [] => rfl
  | l :: ls => by
      obtain ⟨y, zs, h⟩ := List.exists_cons_of_ne_nil (List.append_ne_nil_of_right_ne_nil ls
        (List.cons_ne_nil ([] : List Char) []))
      have ih := linesText_eq_intercalate ls
      rw [h] at ih
      simp only [linesText, List.map_cons, List.flatten_cons, List.cons_append, h, List.intercalate,
        List.intersperse_cons₂, List.append_assoc] at ih ⊢
      rw [← ih]

/-- **`std::getline` reads back the lines a text was written from**, when none holds a
newline. -/
lemma getLines_linesText {ls : List (List Char)} (h : ∀ l ∈ ls, '\n' ∉ l) :
    getLines (linesText ls) = ls := by
  have hs : (linesText ls).splitOn '\n' = ls ++ [[]] := by
    rw [linesText_eq_intercalate]
    refine List.splitOn_intercalate (ls ++ [[]]) '\n' (fun l hl => ?_) (by simp)
    rcases List.mem_append.mp hl with hl | hl
    · exact h l hl
    · rw [List.mem_singleton.mp hl]; exact List.not_mem_nil _
  simp [getLines, hs]

/-- The comment header `SavePeersToConfig` writes, and the blank line after it. -/
def peersFileHeader : List String :=
  ["# WATTx Validator Peers - Auto-generated", "# These peers were discovered from validator heartbeats",
    "# Format: addnode=IP:PORT", ""]

/-- `addrStr.erase(0, addrStr.find_first_not_of(" \t"))`, then
`addrStr.erase(addrStr.find_last_not_of(" \t\r\n") + 1)`. -/
def trimAddress (s : List Char) : List Char :=
  ((s.dropWhile fun ch => ch == ' ' || ch == '\t').reverse.dropWhile isBlank).reverse

/-- `line.substr(line.find("addnode=") + 8)`: the text after the first `addnode=`, if any. -/
def afterAddnode : List Char → Option (List Char)
  | [] => none
  | line@(_ :: rest) =>
      if "addnode=".data.isPrefixOf line then some (line.drop 8) else afterAddnode rest

/-- The address the loop of `LoadPeersFromConfig` adds for one line, if any. -/
def addnodeAddress (net : NetApi) : List Char → Option Service
  | [] => none
  | line@(ch :: _) =>
      if ch = '#' then none
      else
        match afterAddnode line with
        | none => none
        | some rest =>
            let addrStr := trimAddress rest
            if addrStr = [] then none
            else
              let addr := net.lookupNumeric ⟨addrStr⟩ 18888
              if net.isValid addr then some addr else none

namespace PeerDiscoveryManager

variable (net : NetApi)

/-- `PeerDiscoveryManager::SavePeersToConfig`: the text it writes, the peers in the set's order.
The config path and the file system are not modelled. -/
def savePeersToConfig (d : PeerDiscoveryManager) : String :=
  ⟨linesText ((peersFileHeader ++ d.knownValidatorPeers.keys.map fun a =>
    "addnode=" ++ net.toStringAddrPort a).map String.data)⟩

/-- The loop body of `LoadPeersFromConfig`: the line's address, if any, joins the known set. -/
def loadLine (d : PeerDiscoveryManager) (line : List Char) : PeerDiscoveryManager :=
  match addnodeAddress net line with
  | none => d
  | some addr => { d with knownValidatorPeers := d.knownValidatorPeers.insert addr () }

/-- `PeerDiscoveryManager::LoadPeersFromConfig` on the file's text. -/
def loadPeersFromConfig (d : PeerDiscoveryManager) (text : String) : PeerDiscoveryManager :=
  (getLines text.data).foldl (loadLine net) d

/-- **A load adds exactly the lines' addresses** to what was known. -/
lemma known_foldl_loadLine : ∀ (lines : List (List Char)) (d : PeerDiscoveryManager) (a : Service),
    ((lines.foldl (loadLine net) d).knownValidatorPeers.find? a).isSome ↔
      (d.knownValidatorPeers.find? a).isSome ∨ ∃ line ∈ lines, addnodeAddress net line = some a
  | [], _, _ => by simp
  | line :: lines, d, a => by
      rw [List.foldl_cons, known_foldl_loadLine lines]
      unfold loadLine
      split
      · rename_i h
        simp [h]
      · rename_i addr h
        by_cases ha : addr = a
        · subst ha; simp [h]
        · simp [StdMap.find?_insert_ne _ _ ha, h, ha]

end PeerDiscoveryManager

/-- `find("addnode=")` finds a line's leading `addnode=`. -/
lemma afterAddnode_addnode (t : List Char) : afterAddnode ("addnode=".data ++ t) = some t := by
  have hp : "addnode=".data.isPrefixOf ("addnode=".data ++ t) = true :=
    List.isPrefixOf_iff_prefix.mpr (List.prefix_append _ _)
  rw [show "addnode=".data ++ t = 'a' :: ("ddnode=".data ++ t) from rfl, afterAddnode,
    ← show "addnode=".data ++ t = 'a' :: ("ddnode=".data ++ t) from rfl, if_pos hp]
  exact congrArg some (List.drop_left' rfl)

/-- Trimming a text without blanks leaves it as it is. -/
lemma trimAddress_of_plain {s : List Char} (h : ∀ ch ∈ s, isBlank ch = false) : trimAddress s = s := by
  have hdrop : ∀ (p : Char → Bool) (l : List Char), (∀ ch ∈ l, p ch = false) → l.dropWhile p = l
    | _, [], _ => rfl
    | p, ch :: l, hl => List.dropWhile_cons_of_neg (by simp [hl ch (List.mem_cons_self _ _)])
  have hst : ∀ ch ∈ s, (ch == ' ' || ch == '\t') = false := fun ch hch => by
    have := h ch hch; simp only [isBlank, Bool.or_eq_false_iff] at this ⊢; exact this.1.1
  rw [trimAddress, hdrop _ s hst, hdrop _ _ (fun ch hch => h ch (List.mem_reverse.mp hch)),
    List.reverse_reverse]

section Saved

variable {net : NetApi} {a : Service} (hplain : ∀ ch ∈ (net.toStringAddrPort a).data, isBlank ch = false)
include hplain

/-- The line `SavePeersToConfig` writes for an address that prints without blanks holds no
newline. -/
lemma newline_not_mem_addnode : '\n' ∉ ("addnode=" ++ net.toStringAddrPort a).data := fun h => by
  rcases List.mem_append.mp h with h | h
  · revert h; decide
  · exact absurd (hplain _ h) (by decide)

variable (hread : net.ReadsBack a)
include hread

/-- The line `SavePeersToConfig` writes for a valid address that reads back from its text,
and prints without blanks, gives that address back. -/
lemma addnodeAddress_addnode (ha : net.isValid a = true) :
    addnodeAddress net ("addnode=" ++ net.toStringAddrPort a).data = some a := by
  have hne : (net.toStringAddrPort a).data ≠ [] := fun h => hread.nonempty (String.ext h)
  show addnodeAddress net ('a' :: ("ddnode=".data ++ (net.toStringAddrPort a).data)) = some a
  rw [addnodeAddress, if_neg (by decide), ← show "addnode=".data ++ (net.toStringAddrPort a).data =
    'a' :: ("ddnode=".data ++ (net.toStringAddrPort a).data) from rfl, afterAddnode_addnode]
  simp only [trimAddress_of_plain hplain, if_neg hne, String.ext_iff, hread.lookup_print, ha, if_true]

end Saved

open PeerDiscoveryManager in
/-- **The peers file.** For every set of valid addresses held as known peers, each of which
reads back from its text and prints without blanks, saving the file and loading it into a
manager that knows no peer gives the set back. -/
theorem peer_file_round_trip {net : NetApi} (d : PeerDiscoveryManager)
    (hkeys : ∀ a ∈ d.knownValidatorPeers.keys, net.isValid a = true ∧ net.ReadsBack a ∧
      ∀ ch ∈ (net.toStringAddrPort a).data, isBlank ch = false) (pending : StdMap Service Unit) :
    (loadPeersFromConfig net ⟨StdMap.empty, pending⟩ (d.savePeersToConfig net)).knownValidatorPeers =
      d.knownValidatorPeers := by
  refine StdMap.ext_isSome fun a => (known_foldl_loadLine net _ _ a).trans ?_
  have hheader : ∀ l ∈ peersFileHeader.map String.data, addnodeAddress net l = none ∧ '\n' ∉ l := by
    simp only [peersFileHeader, List.map_cons, List.map_nil, List.mem_cons, List.not_mem_nil,
      or_false]
    rintro l (rfl | rfl | rfl | rfl) <;> exact ⟨rfl, by decide⟩
  have hsave : getLines (d.savePeersToConfig net).data = (peersFileHeader ++ d.knownValidatorPeers.keys.map
      fun a => "addnode=" ++ net.toStringAddrPort a).map String.data := by
    refine getLines_linesText fun l hl => ?_
    simp only [List.map_append, List.mem_append, List.map_map] at hl
    rcases hl with hl | hl
    · exact (hheader l hl).2
    · obtain ⟨a, ha, rfl⟩ := List.mem_map.mp hl
      exact newline_not_mem_addnode (hkeys a ha).2.2
  rw [hsave]
  simp only [StdMap.find?_empty, Option.isSome_none, Bool.false_eq_true, false_or, List.map_append,
    List.mem_append, List.map_map, StdMap.isSome_find?_iff_mem_keys]
  constructor
  · rintro ⟨l, hl | hl, h⟩
    · rw [(hheader l hl).1] at h; cases h
    · obtain ⟨a', ha', rfl⟩ := List.mem_map.mp hl
      obtain ⟨hv, hr, hp⟩ := hkeys a' ha'
      rw [Function.comp_apply, addnodeAddress_addnode hp hr hv] at h
      exact Option.some_inj.mp h ▸ ha'
  · intro ha
    obtain ⟨hv, hr, hp⟩ := hkeys a ha
    exact ⟨_, .inr (List.mem_map_of_mem _ ha), addnodeAddress_addnode hp hr hv⟩

/-- Three addresses as known peers, as in the spec's sample round trip. -/
def threePeers : PeerDiscoveryManager := ⟨((StdMap.empty.insert ⟨1, 80⟩ ()).insert ⟨2, 80⟩ ()).insert ⟨3, 80⟩ (), StdMap.empty⟩

example : (PeerDiscoveryManager.loadPeersFromConfig NetApi.decimal ⟨StdMap.empty, StdMap.empty⟩
    (threePeers.savePeersToConfig NetApi.decimal)).knownValidatorPeers = threePeers.knownValidatorPeers :=
  peer_file_round_trip threePeers (fun a ha => ⟨by revert a; decide, decimal_readsBack a, decimal_plain a⟩) _

/-- A line with text before `addnode=` and a line without a port each add an address. -/
theorem loose_addnode_lines :
    (PeerDiscoveryManager.loadPeersFromConfig NetApi.decimal ⟨StdMap.empty, StdMap.empty⟩
        "x addnode=7:9\naddnode=5\n").knownValidatorPeers.keys = [⟨5, 18888⟩, ⟨7, 9⟩] := by
  decide

end WattxCore
