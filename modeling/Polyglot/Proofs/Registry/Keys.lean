import Mathlib.Data.List.DropRight
import Polyglot.Proofs.Unicode.Lowercase
import Polyglot.Registry

/-!
# `Polyglot.Proofs.Registry.Keys`: keys of extensions

The key of an extension is its own key (`extensionKey_extensionKey`), provided that no white
space follows the dots in front of the extension: such white space is not at the end of the
text while the dots are there, and is at the end of it when they are gone.

The extension of a path has no dots (`dot_notMem_of_pathExtension?`), so its key is looked up
the same way whether it is taken as an extension or as a key.
-/

set_option autoImplicit false

namespace Polyglot

/-! ### White space at the ends -/

/-- There is no white space at the ends of a text. -/
structure Unicode.Trimmed (text : List Char) : Prop where
  /-- The text does not start with white space. -/
  head : ∀ c ∈ text.head?, isBlank c = false
  /-- The text does not end with white space. -/
  last : ∀ c ∈ text.getLast?, isBlank c = false

/-- Nothing is dropped from a list whose first element is to be kept. -/
theorem dropWhile_eq_self {α : Type} {p : α → Bool} {xs : List α}
    (h : ∀ x ∈ xs.head?, p x = false) : xs.dropWhile p = xs := by
  cases xs with
  | nil => rfl
  | cons x rest => rw [List.dropWhile_cons_of_neg (by simp [h x rfl])]

/-- What is left after dropping starts with something to be kept. If all was dropped, it starts with
nothing. -/
theorem head?_dropWhile {α : Type} {p : α → Bool} {xs : List α} {x : α}
    (h : x ∈ (xs.dropWhile p).head?) : p x = false := by
  have hnot := List.head?_dropWhile_not p xs
  rw [Option.mem_def.mp h] at hnot
  exact hnot

namespace Unicode

/-- A trimmed text is trimmed. The start of the text is cut first. Cutting the end afterwards leaves
a beginning of what was there, and so the first character stays, if any does. -/
theorem trimmed_trim (text : List Char) : Trimmed (trim text) := by
  constructor
  · intro c hc
    obtain ⟨blanks, hblanks⟩ : trim text <+: text.dropWhile isBlank :=
      List.rdropWhile_prefix isBlank _
    have hhead : c ∈ (text.dropWhile isBlank).head? := by
      rw [← hblanks, List.head?_append, Option.mem_def.mp hc]
      rfl
    exact head?_dropWhile hhead
  · intro c hc
    rw [trim, List.getLast?_reverse] at hc
    exact head?_dropWhile hc

/-- Trimming keeps a text that has no white space at its ends. The end is looked at in the reversed
text, whose first character is the last one. -/
theorem trim_of_trimmed {text : List Char} (h : Trimmed text) : trim text = text := by
  rw [trim, dropWhile_eq_self h.head, dropWhile_eq_self, List.reverse_reverse]
  rw [List.head?_reverse]
  exact h.last

/-- Lower-casing puts no white space at the ends of a text. It works character by character, and
what a character becomes is white space only if the character was. -/
theorem trimmed_lowercase {text : List Char} (h : Trimmed text) : Trimmed (lowercase text) := by
  constructor
  · intro d hd
    obtain ⟨c, hc, hblank, -⟩ := exists_head_of_lowercase hd
    rw [Bool.eq_false_iff]
    exact fun hd => Bool.eq_false_iff.mp (h.head c hc) (hblank hd)
  · intro d hd
    obtain ⟨c, hc, hblank⟩ := exists_getLast_of_lowercaseAfter hd
    rw [Bool.eq_false_iff]
    exact fun hd => Bool.eq_false_iff.mp (h.last c hc) (hblank hd)

end Unicode

/-! ### Extensions -/

/-- An extension without white space around it and dots in front of it. -/
def strippedExtension (extension : String) : List Char :=
  (Unicode.trim extension.toList).dropWhile (· == '.')

/-- The key of an extension is the lower-case form of what is left of it. -/
theorem extensionKey_eq (extension : String) : extensionKey extension =
    String.ofList (Unicode.lowercase (strippedExtension extension)) := rfl

/-- What is left of an extension does not end with white space. This is not so of its start:
stripping dots may uncover white space behind them. -/
theorem isBlank_last_strippedExtension {extension : String} {c : Char}
    (hc : c ∈ (strippedExtension extension).getLast?) : Unicode.isBlank c = false := by
  -- the end of the text is that of the trimmed one, whose start alone was stripped
  refine (Unicode.trimmed_trim extension.toList).last c ?_
  obtain ⟨dots, hdots⟩ : strippedExtension extension <:+ Unicode.trim extension.toList :=
    List.dropWhile_suffix _
  rw [← hdots, List.getLast?_append, Option.mem_def.mp hc]
  rfl

/-- The key of an extension does not start with a dot. No other character becomes a dot in lower
case. -/
theorem head_extensionKey_ne_dot {extension : String} {d : Char}
    (hd : d ∈ (extensionKey extension).toList.head?) : (d == '.') = false := by
  rw [extensionKey_eq, String.toList_ofList] at hd
  obtain ⟨c, hc, -, hdot⟩ := Unicode.exists_head_of_lowercase hd
  have hkept := @head?_dropWhile _ (· == '.') _ _ hc
  rw [beq_eq_false_iff_ne] at hkept ⊢
  exact fun h => hkept (hdot h)

/-- The key of an extension does not end with white space. -/
theorem isBlank_last_extensionKey {extension : String} {d : Char}
    (hd : d ∈ (extensionKey extension).toList.getLast?) : Unicode.isBlank d = false := by
  rw [extensionKey_eq, String.toList_ofList] at hd
  obtain ⟨c, hc, hblank⟩ := Unicode.exists_getLast_of_lowercaseAfter hd
  rw [Bool.eq_false_iff]
  exact fun hd => Bool.eq_false_iff.mp (isBlank_last_strippedExtension hc) (hblank hd)

/-- The key of dots and a text behind them is the text, if there is no white space around both and
the text has no dot in front and is in lower case. So a key under which something is listed with a
dot is found again. -/
theorem extensionKey_of_trimmed {dots text : List Char} (hdots : ∀ d ∈ dots, d = '.')
    (htrimmed : Unicode.Trimmed (dots ++ text)) (hdot : ∀ d ∈ text.head?, (d == '.') = false)
    (hlower : Unicode.lowercase text = text) :
    extensionKey (String.ofList (dots ++ text)) = String.ofList text := by
  have hkept : strippedExtension (String.ofList (dots ++ text)) = text := by
    rw [strippedExtension, String.toList_ofList, Unicode.trim_of_trimmed htrimmed,
      List.dropWhile_append_of_pos fun d hd => beq_iff_eq.mpr (hdots d hd), dropWhile_eq_self hdot]
  rw [extensionKey_eq, hkept, hlower]

/-- The key of an extension is in lower case. Lower-casing once more changes nothing, whatever
characters there are (`Unicode.lowercase_lowercase`). -/
theorem lowercase_toList_extensionKey (extension : String) :
    Unicode.lowercase (extensionKey extension).toList = (extensionKey extension).toList := by
  rw [extensionKey_eq, String.toList_ofList, Unicode.lowercase_lowercase]

/-- The key of an extension is its own key if no white space follows the dots in front. Nothing is
left to be cut off or stripped then, and it is in lower case. -/
theorem extensionKey_extensionKey {extension : String}
    (h : ∀ c ∈ (strippedExtension extension).head?, Unicode.isBlank c = false) :
    extensionKey (extensionKey extension) = extensionKey extension := by
  have htrimmed : Unicode.Trimmed ([] ++ (extensionKey extension).toList) := by
    rw [List.nil_append, extensionKey_eq, String.toList_ofList]
    exact Unicode.trimmed_lowercase ⟨h, fun _ hc => isBlank_last_strippedExtension hc⟩
  have hkey := extensionKey_of_trimmed (List.forall_mem_nil _) htrimmed
    (fun _ hd => head_extensionKey_ne_dot hd) (lowercase_toList_extensionKey extension)
  rwa [List.nil_append, String.ofList_toList] at hkey

/-- A key is in lower case, so it is one name only: the spelling as it is and the one in lower case
are the same. -/
theorem lowercaseName_extensionKey (extension : String) :
    lowercaseName (extensionKey extension) = extensionKey extension := by
  rw [lowercaseName, lowercase_toList_extensionKey, String.ofList_toList]

/-- The extension of a path has no dots: it is what follows the last one. If a file name only has a
dot in front, it has no extension. -/
theorem dot_notMem_of_pathExtension? {path extension : String}
    (h : pathExtension? path = some extension) : '.' ∉ extension.toList := by
  unfold pathExtension? at h
  obtain ⟨file, -, h⟩ := Option.bind_eq_some_iff.mp h
  dsimp only at h
  split at h
  · split at h
    · exact absurd h (by simp)
    · obtain rfl := Option.some.inj h
      rw [String.toList_ofList, List.mem_reverse]
      intro hmem
      simpa using List.mem_takeWhile_imp hmem
  · exact absurd h (by simp)

/-- The key of the extension of a path is its own key. There are no dots to be stripped from it, so
no white space can come out behind them. -/
theorem extensionKey_of_pathExtension? {path extension : String}
    (h : pathExtension? path = some extension) :
    extensionKey (extensionKey extension) = extensionKey extension := by
  refine extensionKey_extensionKey fun c hc => ?_
  refine (Unicode.trimmed_trim extension.toList).head c ?_
  -- nothing is stripped, because a dot in the trimmed text would be one in the extension
  rw [strippedExtension, dropWhile_eq_self] at hc
  · exact hc
  · intro d hd
    rw [beq_eq_false_iff_ne]
    rintro rfl
    refine dot_notMem_of_pathExtension? h ?_
    have hstart : Unicode.trim extension.toList <+: extension.toList.dropWhile Unicode.isBlank :=
      List.rdropWhile_prefix Unicode.isBlank _
    exact (List.dropWhile_sublist _).subset
      (hstart.subset (List.mem_of_mem_head? hd))

end Polyglot
