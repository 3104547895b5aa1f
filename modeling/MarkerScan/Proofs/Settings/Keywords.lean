import MarkerScan.CommandLine.Run
import MarkerScan.Proofs.Marker.Words
/-
  MarkerScan.Proofs.Settings.Keywords — keywords from the command line and from the settings.

  A command line cuts its list of keywords into words before the settings have them, and the
  entries of the settings are cut again when they are used. The second cut finds nothing to
  do: the words of a command line are those of its list as one entry (`words_eq`), and words
  stand for themselves.

  Proved, for all settings: `activeKeywords_exact`. In which of the two ways a list comes
  makes no difference, and the entries joined with commas say which words there are and in
  which order.
-/

namespace MarkerScan

namespace Text

theorem map_toList_ofList (texts : List (List Char)) : (texts.map String.ofList).map String.toList = texts := by
  rw [List.map_map]
  exact (List.map_congr_left fun s _ => String.toList_ofList).trans (List.map_id texts)

theorem isEmpty_ofList (s : List Char) : (String.ofList s).isEmpty = s.isEmpty := by
  rw [Bool.eq_iff_iff, String.isEmpty_iff, String.ofList_eq_empty_iff, List.isEmpty_iff]

end Text

open Text

namespace CommandLine

/-- The words of a list on the command line are those of an entry of the settings. -/
theorem words_eq (list : String) : words list = (Marker.activeWords [list.toList]).map String.ofList := by
  unfold words Marker.activeWords
  rw [List.flatMap_singleton, List.filter_map, List.filter_map, List.map_map]
  simp only [Function.comp_def, isEmpty_ofList]

end CommandLine

namespace Settings

theorem activeKeywords_override (settings : Settings) (given : Overrides) (list : String) :
    (settings.override { given with keywords := some (CommandLine.words list) }).activeKeywords =
      ({ settings with keywords := [list] } : Settings).activeKeywords := by
  show Marker.activeWords ((CommandLine.words list).map String.toList) = Marker.activeWords [list.toList]
  rw [CommandLine.words_eq, map_toList_ofList]
  exact Marker.activeWords_eq_self fun w hw => Marker.listWord_of_mem_activeWords hw

theorem activeKeywords_joined (settings : Settings) :
    settings.activeKeywords = Marker.activeWords [(",".intercalate settings.keywords).toList] := by
  rw [String.toList_intercalate]
  exact (Marker.activeWords_join (settings.keywords.map String.toList)).symm

/-- A list of keywords says the same on the command line, whatever else is given there, as it does as the only entry of
    the settings. The words of any settings are the ones that their entries list when they are joined with commas, in
    that order, so settings whose entries are then the same text have the same words. Each word has a character, no
    blank at its ends and no comma, and as entries the words stand for themselves. -/
theorem activeKeywords_exact (settings : Settings) :
    (∀ (list : String) (given : Overrides),
      (settings.override { given with keywords := some (CommandLine.words list) }).activeKeywords =
        ({ settings with keywords := [list] } : Settings).activeKeywords) ∧
    (∀ (list : String) (o : CommandLine.ScanOptions) (c : CommandLine.Command), o.keywords = some list →
      (settings.override (CommandLine.overrides o c)).activeKeywords =
        ({ settings with keywords := [list] } : Settings).activeKeywords) ∧
    (∀ other : Settings, ",".intercalate other.keywords = ",".intercalate settings.keywords →
      other.activeKeywords = settings.activeKeywords) ∧
    (∀ words, settings.activeKeywords = words ↔ Marker.Lists (",".intercalate settings.keywords).toList words) ∧
    (∀ w ∈ settings.activeKeywords, w ≠ [] ∧ trim w = w ∧ ',' ∉ w) ∧
    ({ settings with keywords := settings.activeKeywords.map String.ofList } : Settings).activeKeywords =
      settings.activeKeywords := by
  have word : ∀ w ∈ settings.activeKeywords, Marker.ListWord w := fun w hw => Marker.listWord_of_mem_activeWords hw
  refine ⟨fun list given => activeKeywords_override settings given list, ?_, ?_, ?_, ?_, ?_⟩
  · intro list o c given
    have same : CommandLine.overrides o c =
        { CommandLine.overrides o c with keywords := some (CommandLine.words list) } := by
      simp [CommandLine.overrides, given]
    rw [same]
    exact activeKeywords_override settings _ list
  · intro other h
    rw [activeKeywords_joined other, h, ← activeKeywords_joined]
  · intro words
    rw [activeKeywords_joined, Marker.lists_iff]
  · intro w hw
    exact ⟨(word w hw).ne_nil, (word w hw).trimmed, (word w hw).no_comma⟩
  · show Marker.activeWords ((settings.activeKeywords.map String.ofList).map String.toList) = settings.activeKeywords
    rw [map_toList_ofList]
    exact Marker.activeWords_eq_self word

/-- Words in two entries or in three, with a wide blank in front of one of them and a space inside it. -/
theorem activeKeywords_exact_wide_blank :
    let settings : Settings := { keywords := ["TODO, FIXME", " ", "\u3000HACK me ,,"] }
    let other : Settings := { keywords := ["TODO", " FIXME, ,\u3000HACK me ,,"] }
    let o : CommandLine.ScanOptions := { keywords := some ",a b\u3000,,c", jobs := some .forDelivery }
    (settings.override (CommandLine.overrides o (.scan {}))).activeKeywords = ["a b".toList, "c".toList] ∧
      ",".intercalate other.keywords = ",".intercalate settings.keywords ∧
      other.activeKeywords = ["TODO".toList, "FIXME".toList, "HACK me".toList] ∧
      Marker.Lists "TODO, FIXME, ,\u3000HACK me ,,".toList settings.activeKeywords ∧
      "HACK me".toList ∈ settings.activeKeywords ∧ trim "HACK me".toList = "HACK me".toList := by
  intro settings other o
  have found : settings.activeKeywords = ["TODO".toList, "FIXME".toList, "HACK me".toList] := by decide +kernel
  have member : "HACK me".toList ∈ settings.activeKeywords := by simp [found]
  have joined : ",".intercalate other.keywords = ",".intercalate settings.keywords := by decide +kernel
  obtain ⟨-, commandLine, same, lists, words, -⟩ := activeKeywords_exact settings
  refine ⟨?_, joined, (same other joined).trans found, (lists _).mp rfl, member, (words _ member).2.1⟩
  rw [commandLine _ o _ rfl]
  decide +kernel

end Settings

end MarkerScan
