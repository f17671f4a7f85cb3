import LoopBound.Settings.Value

/-!
# Merging

Overrides are laid over a base. Where both have a mapping the two are merged; anything else in the
overrides takes the place of what the base has; nothing in the overrides leaves the base as it is.
-/

namespace LoopBound.Settings

/-- A value in the place of the one that the base has. -/
def overlay (base? : Option Value) : Value → Value
  | .mapping entries =>
    match base? with
    | some (.mapping base) => .mapping (mergeInto base entries)
    | _ => .mapping entries
  | v => v
where
  /-- Lays entries over a base, one after another. -/
  mergeInto (base : Mapping) : List (String × Value) → Mapping
    | [] => base
    | (_, .null) :: rest => mergeInto base rest
    | (key, v) :: rest => mergeInto (base.put key (overlay (base.get? key) v)) rest

/-- Merges overrides into a base. -/
def merge (base overrides : Mapping) : Mapping :=
  overlay.mergeInto base overrides

end LoopBound.Settings
