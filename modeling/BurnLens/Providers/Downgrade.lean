import BurnLens.Library.Text

/-! # Budget-aware model downgrade map -/

namespace BurnLens.Providers

open Library

def downgradeMap : List (Str × Str) :=
  [("gpt-4o", "gpt-4o-mini"),
   ("gpt-4-turbo", "gpt-4o-mini"),
   ("o1", "gpt-4o-mini"),
   ("o3", "gpt-4o-mini"),
   ("o1-mini", "gpt-4o-mini"),
   ("gpt-5.2", "gpt-5-mini"),
   ("gpt-5.2-pro", "gpt-5-mini"),
   ("gpt-5.6", "gpt-5.6-terra"),
   ("gpt-5.6-sol", "gpt-5.6-terra"),
   ("gpt-5.6-terra", "gpt-5.6-luna"),
   ("claude-opus-4-6", "claude-haiku-4-5-20251001"),
   ("claude-sonnet-4-6", "claude-haiku-4-5-20251001"),
   ("claude-3-5-sonnet-20241022", "claude-haiku-4-5-20251001"),
   ("claude-sonnet-5", "claude-haiku-4-5"),
   ("gemini-1.5-pro", "gemini-1.5-flash"),
   ("gemini-2.0-pro", "gemini-1.5-flash"),
   ("gemini-3.1-pro-preview", "gemini-3.1-flash-lite")]

/-- `re.sub(r"-(latest|\d{3,})$", "", model)`: the text behind the last hyphen decides. -/
def stripSuffix (model : Str) : Str :=
  let suffix := model.rtakeWhile (· ≠ '-')
  if '-' ∈ model ∧ (suffix = "latest" ∨ (3 ≤ suffix.length ∧ suffix.all isDecimal)) then
    (model.rdropWhile (· ≠ '-')).dropLast
  else model

def getDowngradeModel (model : Str) : Option Str :=
  match downgradeMap.lookup model with
  | some target => some target
  | none => if stripSuffix model ≠ model then downgradeMap.lookup (stripSuffix model) else none

example : getDowngradeModel "gemini-1.5-pro-002" = some "gemini-1.5-flash".toList := by decide

theorem getDowngradeModel_mem {model target : Str} (found : getDowngradeModel model = some target) :
    target ∈ downgradeMap.map Prod.snd := by
  have listed : ∀ name : Str, downgradeMap.lookup name = some target →
      target ∈ downgradeMap.map Prod.snd := fun name hit => by
    obtain ⟨before, after, split, -⟩ := List.lookup_eq_some_iff.mp hit
    exact List.mem_map_of_mem (f := Prod.snd) (a := (name, target)) (by simp [split])
  simp only [getDowngradeModel] at found
  split at found
  · next hit => cases found; exact listed _ hit
  · split at found
    · exact listed _ found
    · cases found

theorem getDowngradeModel_clean {model target : Str} (found : getDowngradeModel model = some target) :
    target ≠ [] ∧ ∀ c ∈ target, c ≠ '?' ∧ c ≠ '/' ∧ c ≠ ':' ∧ c ≠ '%' := by
  have clean : (downgradeMap.map Prod.snd).all (fun target => !target.isEmpty &&
      target.all fun c => c ≠ '?' && c ≠ '/' && c ≠ ':' && c ≠ '%') = true := by decide
  have row := List.all_eq_true.mp clean target (getDowngradeModel_mem found)
  simpa [and_assoc] using row

end BurnLens.Providers
