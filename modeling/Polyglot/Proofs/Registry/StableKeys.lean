import Mathlib
import Polyglot.Proofs.Registry.History
import Polyglot.Proofs.Registry.Keys

/-!
# `Polyglot.Proofs.Registry.StableKeys`: which keys are found under themselves

The key of an extension is made by cutting off the white space around it, then the dots in front,
then by lower-casing what is left. White space behind the dots is not cut off, because there are
dots in front of it at that time, and so it is at the start of the key
(`blankBehindDots_iff_key`). The key of such a key is shorter.

`extensionKey_idempotent_iff`: this is the only case in which a key is not its own key. The
extension of a path has no dots, so it is never such a case, and a key that is looked up with a dot
in front is always found. A key that is looked up without one is found under itself unless it starts
with white space. `extensionKey_dot_blank` is an extension whose key a registry lists and does not
find.

That nothing else can go wrong rests on three facts about lower-casing: it settles all characters,
it makes no white space and no dots, and it keeps white space.
-/

set_option autoImplicit false

namespace Polyglot

/-- White space follows the dots in front of an extension, when the white space around the extension
is cut off. -/
def BlankBehindDots (extension : String) : Prop :=
  ∃ dots c rest, Unicode.trim extension.toList = dots ++ c :: rest ∧ (∀ d ∈ dots, d = '.') ∧
    Unicode.isBlank c = true

/-! ### White space in front of a key -/

/-- White space is no dot. -/
theorem ne_dot_of_isBlank {c : Char} (hc : Unicode.isBlank c = true) : c ≠ '.' := by
  rintro rfl
  exact absurd hc (by decide)

variable {extension : String}

/-- White space follows the dots just if it is at the start of what is left. The dots in front of it
need not be all dots, but all that stand before white space are stripped. -/
theorem blankBehindDots_iff_stripped : BlankBehindDots extension ↔
    ∃ c ∈ (strippedExtension extension).head?, Unicode.isBlank c = true := by
  constructor
  · rintro ⟨dots, c, rest, htext, hdots, hblank⟩
    refine ⟨c, ?_, hblank⟩
    rw [strippedExtension, htext,
      List.dropWhile_append_of_pos fun d hd => beq_iff_eq.mpr (hdots d hd),
      List.dropWhile_cons_of_neg (by simpa using ne_dot_of_isBlank hblank)]
    rfl
  · rintro ⟨c, hc, hblank⟩
    obtain ⟨rest, hrest⟩ := List.head?_eq_some_iff.mp hc
    -- the dots are those that were stripped
    refine ⟨(Unicode.trim extension.toList).takeWhile (· == '.'), c, rest, ?_, ?_, hblank⟩
    · rw [← hrest, strippedExtension, List.takeWhile_append_dropWhile]
    · intro d hd
      simpa using List.mem_takeWhile_imp hd

/-- White space follows the dots just if the key starts with white space. Lower-casing keeps white
space as it is and makes none. -/
theorem blankBehindDots_iff_key : BlankBehindDots extension ↔
    ∃ c ∈ (extensionKey extension).toList.head?, Unicode.isBlank c = true := by
  rw [blankBehindDots_iff_stripped, extensionKey_eq, String.toList_ofList]
  constructor
  · rintro ⟨c, hc, hblank⟩
    obtain ⟨rest, hrest⟩ := List.head?_eq_some_iff.mp hc
    -- lower-casing keeps the white space, wherever it stands
    obtain ⟨hsigma, hdotted, hkept⟩ := Unicode.settled_of_isBlank hblank
    refine ⟨c, ?_, hblank⟩
    rw [hrest, Unicode.lowercase, Unicode.lowercaseAfter]
    simp only [if_neg hsigma, if_neg hdotted, hkept]
    rfl
  · rintro ⟨d, hd, hblank⟩
    obtain ⟨c, hc, hfrom, -⟩ := Unicode.exists_head_of_lowercase hd
    exact ⟨c, hc, hfrom hblank⟩

/-- Trimming drops characters of a text and keeps the others in order. -/
theorem trim_sublist (text : List Char) : (Unicode.trim text).Sublist text :=
  (List.rdropWhile_prefix Unicode.isBlank _).sublist.trans (List.dropWhile_sublist _)

/-- White space in front of a text is cut off. So trimming makes such a text shorter, and this is
how two keys are told apart below. -/
theorem length_trim_lt {text : List Char} {c : Char} (hc : c ∈ text.head?)
    (hblank : Unicode.isBlank c = true) : (Unicode.trim text).length < text.length := by
  obtain ⟨rest, rfl⟩ := List.head?_eq_some_iff.mp hc
  have hcut : Unicode.trim (c :: rest) = Unicode.trim rest := by
    rw [Unicode.trim, List.dropWhile_cons_of_pos hblank]
    rfl
  rw [hcut, List.length_cons]
  exact Nat.lt_succ_of_le (trim_sublist rest).length_le

/-- A key that starts with white space is not its own key. The second time the white space is
trimmed away. Lower-casing adds nothing to what is left, since the key is in lower case already. -/
theorem extensionKey_ne_of_blank (h : BlankBehindDots extension) :
    extensionKey (extensionKey extension) ≠ extensionKey extension := by
  obtain ⟨c, hc, hblank⟩ := blankBehindDots_iff_key.mp h
  have hsettled : ∀ d ∈ (extensionKey extension).toList, Unicode.Settled d := by
    intro d hd
    rw [extensionKey_eq, String.toList_ofList] at hd
    exact (Unicode.mem_lowercaseAfter hd).1
  generalize extensionKey extension = key at hc hsettled ⊢
  intro hfixed
  have hstripped : (strippedExtension key).Sublist (Unicode.trim key.toList) :=
    List.dropWhile_sublist _
  -- what is left of the key is in lower case already, so the key would be as short as that
  have hlower : Unicode.lowercase (strippedExtension key) = strippedExtension key :=
    Unicode.lowercaseAfter_of_settled fun d hd =>
      hsettled d ((hstripped.trans (trim_sublist _)).subset hd)
  have hkey := congrArg String.toList hfixed
  rw [extensionKey_eq, hlower, String.toList_ofList] at hkey
  have hlength := hstripped.length_le
  rw [hkey] at hlength
  exact absurd (length_trim_lt hc hblank) (Nat.not_lt.mpr hlength)

/-- A key is its own key just if no white space follows the dots in front of the extension. This is
the exact condition: all other texts have keys that can be used as extensions again. -/
theorem extensionKey_extensionKey_iff :
    extensionKey (extensionKey extension) = extensionKey extension ↔
      ¬ BlankBehindDots extension := by
  constructor
  · exact fun hfixed hblank => extensionKey_ne_of_blank hblank hfixed
  · intro hblank
    refine extensionKey_extensionKey fun c hc => ?_
    rw [Bool.eq_false_iff]
    exact fun h => hblank (blankBehindDots_iff_stripped.mpr ⟨c, hc, h⟩)

/-- The key of a key with a dot in front is the key. -/
theorem extensionKey_dotted (extension : String) :
    extensionKey ("." ++ extensionKey extension) = extensionKey extension := by
  have htrimmed : Unicode.Trimmed (['.'] ++ (extensionKey extension).toList) := by
    constructor
    · intro d hd
      obtain rfl : '.' = d := Option.some.inj hd
      decide
    · intro d hd
      rw [List.getLast?_append] at hd
      cases hlast : (extensionKey extension).toList.getLast? with
      | none =>
        rw [hlast] at hd
        obtain rfl : '.' = d := Option.some.inj hd
        decide
      | some e =>
        rw [hlast] at hd
        obtain rfl : e = d := Option.some.inj hd
        exact isBlank_last_extensionKey hlast
  have hkey := extensionKey_of_trimmed (by simp) htrimmed
    (fun _ hd => head_extensionKey_ne_dot hd) (lowercase_toList_extensionKey extension)
  rwa [String.ofList_append, String.ofList_toList] at hkey

/-! ### Looking up keys -/

namespace Registry

/-- A text that is no name is looked up as the extension with a key. -/
def FindsUnder (r : Registry) (text key : String) : Prop :=
  r.findName? text = none → r.find? text = r.byExtension.find? key

/-- A text is looked up as the extension with its key. This holds of every text, and for a key it
says something only if the key is its own key. -/
theorem findsUnder_extensionKey (r : Registry) (text : String) :
    r.FindsUnder text (extensionKey text) := by
  intro hname
  rw [find?, hname]
  rfl

/-- A key that starts with white space is not found under itself where it is the only one. The
registry of one profile is enough for this. Its name must not be the key, or else it would be found
by name. -/
theorem not_findsUnder_of_blank {name : String} (h : BlankBehindDots extension)
    (hname : name ≠ extensionKey extension) :
    ¬ (after [.register { name, fileExtensions := [extension] }]).FindsUnder
      (extensionKey extension) (extensionKey extension) := by
  intro hfinds
  obtain ⟨objects, hconsistent⟩ :=
    exists_consistent [.register { name, fileExtensions := [extension] }]
  have hhistory : registered [.register { name, fileExtensions := [extension] }] =
      [{ name, fileExtensions := [extension] }] := rfl
  rw [hhistory] at hconsistent
  have hne : extensionKey extension ≠ "" := by
    obtain ⟨c, hc, -⟩ := blankBehindDots_iff_key.mp h
    intro hkey
    rw [hkey] at hc
    cases hc
  have hkeys : Profile.extensionKeys { name, fileExtensions := [extension] } =
      [extensionKey extension] := by
    simp [Profile.extensionKeys, hne]
  -- the profile is found under its own key and under no other one
  have hclaims : ∀ key, History.claiming? [{ name, fileExtensions := [extension] }] key =
      if key = extensionKey extension then some { name, fileExtensions := [extension] }
      else none := by
    intro key
    rw [History.claiming?, List.reverse_singleton, List.find?_singleton, hkeys]
    simp
  have hnamed : History.findName? [{ name, fileExtensions := [extension] }]
      (extensionKey extension) = none := by
    rw [History.findName?, lowercaseName_extensionKey]
    simp [History.named?, hname]
  have hfound := hfinds (Option.map_eq_none_iff.mp
    ((hconsistent.findName? _).map_profile.trans hnamed))
  have hprofile := congrArg (Option.map (·.profile)) hfound
  rw [(hconsistent.find? _).map_profile, (hconsistent.byExtension _).map_profile, History.find?,
    hnamed, hclaims, hclaims, if_neg (extensionKey_ne_of_blank h), if_pos rfl] at hprofile
  cases hprofile

end Registry

/-- The key of an extension is its own key just if no white space follows the dots in front of the
extension, and just then it is found under itself in all registries, unless it is a name. No white
space follows the dots of the extension of a path. With a dot in front a key is always found. -/
theorem extensionKey_idempotent_iff (extension : String) :
    (extensionKey (extensionKey extension) = extensionKey extension ↔
      ¬ BlankBehindDots extension) ∧
    ((∀ actions, (Registry.after actions).FindsUnder (extensionKey extension)
      (extensionKey extension)) ↔ ¬ BlankBehindDots extension) ∧
    (∀ path, pathExtension? path = some extension → ¬ BlankBehindDots extension) ∧
    ∀ actions, (Registry.after actions).FindsUnder ("." ++ extensionKey extension)
      (extensionKey extension) := by
  refine ⟨extensionKey_extensionKey_iff, ⟨?_, ?_⟩, ?_, ?_⟩
  · intro hfinds hblank
    -- some name is not the key
    have hname : extensionKey extension ++ "." ≠ extensionKey extension := by simp
    exact Registry.not_findsUnder_of_blank hblank hname (hfinds _)
  · intro hblank actions
    have hkey := extensionKey_extensionKey_iff.mpr hblank
    have hfinds := (Registry.after actions).findsUnder_extensionKey (extensionKey extension)
    rwa [hkey] at hfinds
  · intro path hpath
    exact extensionKey_extensionKey_iff.mp (extensionKey_of_pathExtension? hpath)
  · intro actions
    have hfinds := (Registry.after actions).findsUnder_extensionKey
      ("." ++ extensionKey extension)
    rwa [extensionKey_dotted] at hfinds

/-- The extension of a path is found under its key. -/
theorem extensionKey_idempotent_iff_path :
    pathExtension? "src/a.tY" = some "tY" ∧ ¬ BlankBehindDots "tY" ∧
      extensionKey (extensionKey "tY") = extensionKey "tY" := by
  obtain ⟨hidempotent, -, hpath, -⟩ := extensionKey_idempotent_iff "tY"
  have hextension : pathExtension? "src/a.tY" = some "tY" := by decide +kernel
  exact ⟨hextension, hpath _ hextension, hidempotent.mpr (hpath _ hextension)⟩

/-- With white space behind the dot, a registry lists an extension whose key it does not find. -/
theorem extensionKey_dot_blank :
    extensionKey (extensionKey ". x") ≠ extensionKey ". x" ∧
      (Registry.after [.register { name := "toy", fileExtensions := [". x"] }]).byExtension.keys =
        [" x"] ∧
      ((Registry.after [.register { name := "toy", fileExtensions := [". x"] }]).find? " x").isNone
        = true := by
  decide +kernel

end Polyglot
