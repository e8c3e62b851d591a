import PlanViewer.Proofs.JsonIntegers
import PlanViewer.Proofs.TextFiles
import PlanViewer.Settings.File

/-!
# Settings that are saved and loaded

The text of settings holds both of them, whatever the number of days, so reading it gives the
settings back (`Settings.ofJson_toJson`). When settings have been saved in a folder, they are what
is loaded from it.
-/

namespace PlanViewer

open Json

/-! ## The text of settings -/

/-- A blank before a record makes no difference. -/
theorem Json.recordValue_blank {σ α : Type} (start : σ)
    (step : σ → String → List Char → Except Problem (σ × List Char))
    (finish : σ → Except Problem α) (elements : List Char → Except Problem (α × List Char))
    (cs : List Char) :
    recordValue start step finish elements (' ' :: cs) =
      recordValue start step finish elements cs := by
  unfold recordValue
  rw [skipSpace_cons_of_isSpace (by decide)]

theorem MatchMode.jsonValue_writeString (mode : MatchMode) (rest : List Char) :
    jsonValue (' ' :: (writeString mode.name ++ rest)) = .ok (mode, rest) := by
  rw [jsonValue, skipSpace_cons_of_isSpace (by decide), writeString_append,
    skipSpace_cons (by decide)]
  show (readString (mode.name.toList.flatMap writeChar ++ '"' :: rest)).bind ofRead = _
  rw [readString_flatMap_writeChar]
  show ofRead (mode.name, rest) = _
  rw [ofRead, ofName?_name]

namespace Settings

theorem membersRead_fields (s : Settings) :
    MembersRead Fields.step ⟨none, none⟩
      [("expiry_days", Text.Decimal.integer s.expiryDays.toInt),
        ("match_mode", writeString s.matchMode.name)]
      ⟨some s.expiryDays, some s.matchMode⟩ := by
  have hdays : ∀ rest, FollowsValue rest → Fields.step ⟨none, none⟩ "expiry_days"
      (':' :: ' ' :: (Text.Decimal.integer s.expiryDays.toInt ++ rest)) =
        .ok (⟨some s.expiryDays, none⟩, rest) := by
    intro rest hrest
    rw [Fields.step, if_pos rfl, fieldValue_colon, int64Value_integer _ hrest]
    rfl
  have hmode : ∀ rest, Fields.step ⟨some s.expiryDays, none⟩ "match_mode"
      (':' :: ' ' :: (writeString s.matchMode.name ++ rest)) =
        .ok (⟨some s.expiryDays, some s.matchMode⟩, rest) := by
    intro rest
    rw [Fields.step, if_neg (by decide), if_pos rfl, fieldValue_colon,
      MatchMode.jsonValue_writeString]
    rfl
  exact .cons hdays (.cons (fun rest _ => hmode rest) (.nil _))

/-- **The text of settings gives the settings back.** -/
theorem ofJson_toJson (s : Settings) : ofJson s.toJson = .ok s := by
  refine document_ofList ?_
  have hfinish : Fields.finish ⟨some s.expiryDays, some s.matchMode⟩ = .ok s := rfl
  have hread := recordValue_writeLaidOut (membersRead_fields s) hfinish readElements 0 []
  rwa [List.append_nil, recordValue_blank] at hread

/-- **What is saved is loaded.** -/
theorem load_of_outcome_save {s : Settings} {folder : Path} {disk disk' : Disk}
    (h : (s.save folder).outcome disk = (.ok (), disk')) : load disk' folder = .ok s :=
  TextFile.load_of_reading_ok (TextFile.reading_of_outcome_save (by decide) h).1 (ofJson_toJson s)

end Settings

end PlanViewer
