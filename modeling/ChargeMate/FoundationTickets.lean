import Mathlib.Data.List.Nodup
import Mathlib.Tactic.Common

/-! Tickets: each is issued to one holder, who may use it once. A ticket is fresh when it is
issued, since those in circulation and those used up are known; so no ticket is ever used
twice. -/

namespace Ticket

variable {K X : Type} {known known' : X → Prop} {holder holder' : K → Option (X × Bool)}
  {used : List X}

/-- What the holders have, with a flag on a ticket that has been used, and the tickets used so
far. -/
structure Sound (known : X → Prop) (holder : K → Option (X × Bool)) (used : List X) : Prop where
  distinct : ∀ k l x u v, holder k = some (x, u) → holder l = some (x, v) → k = l
  unused : ∀ k x, holder k = some (x, false) → x ∉ used
  nodup : used.Nodup
  issued : ∀ k x u, holder k = some (x, u) → known x
  spent : ∀ x ∈ used, known x

theorem Sound.empty : Sound known (fun _ : K => none) [] where
  distinct := by simp
  unused := by simp
  nodup := List.nodup_nil
  issued := by simp
  spent := by simp

/-- Holders may give their tickets back, and more may become known. -/
theorem Sound.drop (h : Sound known holder used) (hknown : ∀ x, known x → known' x)
    (hdrop : ∀ k t, holder' k = some t → holder k = some t) : Sound known' holder' used where
  distinct k l x u v hk hl := h.distinct k l x u v (hdrop k _ hk) (hdrop l _ hl)
  unused k x hk := h.unused k x (hdrop k _ hk)
  nodup := h.nodup
  issued k x u hk := hknown x (h.issued k x u (hdrop k _ hk))
  spent x hx := hknown x (h.spent x hx)

theorem Sound.issue [DecidableEq K] (h : Sound known holder used) {k : K} {x : X}
    (hnew : ¬known x) (hx : known' x) (hknown : ∀ y, known y → known' y)
    (hissue : ∀ l, holder' l = if l = k then some (x, false) else holder l) :
    Sound known' holder' used where
  distinct := by
    intro l m y u v hl hm
    rw [hissue] at hl hm
    split at hl <;> split at hm
    · next hlk hmk => rw [hlk, hmk]
    · cases hl
      exact absurd (h.issued m x v hm) hnew
    · cases hm
      exact absurd (h.issued l x u hl) hnew
    · exact h.distinct l m y u v hl hm
  unused := by
    intro l y hl
    rw [hissue] at hl
    split at hl
    · cases hl
      exact fun hused => hnew (h.spent x hused)
    · exact h.unused l y hl
  nodup := h.nodup
  issued := by
    intro l y u hl
    rw [hissue] at hl
    split at hl
    · cases hl
      exact hx
    · exact hknown y (h.issued l y u hl)
  spent y hy := hknown y (h.spent y hy)

theorem Sound.use [DecidableEq K] (h : Sound known holder used) {k : K} {x : X}
    (hk : holder k = some (x, false))
    (huse : ∀ l, holder' l = if l = k then some (x, true) else holder l) :
    Sound known holder' (used ++ [x]) where
  distinct := by
    intro l m y u v hl hm
    have hold : ∀ {l : K} {u : Bool}, holder' l = some (y, u) → ∃ u', holder l = some (y, u') := by
      intro l u hl
      rw [huse] at hl
      split at hl
      · next hlk =>
        cases hl
        exact ⟨false, hlk ▸ hk⟩
      · exact ⟨u, hl⟩
    obtain ⟨u', hl'⟩ := hold hl
    obtain ⟨v', hm'⟩ := hold hm
    exact h.distinct l m y u' v' hl' hm'
  unused := by
    intro l y hl hy
    rw [huse] at hl
    split at hl
    · cases hl
    · next hlk =>
      rcases List.mem_append.mp hy with hy | hy
      · exact h.unused l y hl hy
      · rw [List.mem_singleton] at hy
        subst hy
        exact hlk (h.distinct l k _ _ _ hl hk)
  nodup := by
    refine List.nodup_append.mpr ⟨h.nodup, List.nodup_singleton x, ?_⟩
    rintro y hy z hz rfl
    rw [List.mem_singleton] at hz
    exact h.unused k x hk (hz ▸ hy)
  issued := by
    intro l y u hl
    rw [huse] at hl
    split at hl
    · cases hl
      exact h.issued k x false hk
    · exact h.issued l y u hl
  spent := by
    intro y hy
    rcases List.mem_append.mp hy with hy | hy
    · exact h.spent y hy
    · rw [List.mem_singleton] at hy
      exact hy ▸ h.issued k x false hk

/-- Values that tell no more than the tickets do are used once as well. -/
theorem nodup_map_of_determines {A V : Type} {calls : List A} {ticket : A → X} {value : A → V}
    (h : (calls.map ticket).Nodup)
    (hvalue : ∀ a ∈ calls, ∀ b ∈ calls, value a = value b → ticket a = ticket b) :
    (calls.map value).Nodup := by
  refine List.Nodup.map_on ?_ (List.Nodup.of_map ticket h)
  intro a ha b hb hab
  exact List.inj_on_of_nodup_map h ha hb (hvalue a ha b hb hab)

end Ticket
