import AstronomyShop.ProductCatalog.Service
import Mathlib.Data.List.Induction

/-!
# Reloading the catalogue

A tick assigns both results of `readProductFiles`, so that a tick that fails sets the catalogue to
nil before the error is looked at. `keeps_catalogue_iff` says when that loses nothing.
-/

namespace AstronomyShop.ProductCatalog

section

variable (unmarshal : String → Except String ListProductsResponse)

/-- The catalogue after some ticks. -/
def reloadAll (catalog : List Product) (ticks : List Disk) : List Product :=
  ticks.foldl (reload unmarshal) catalog

/-- What the service is for: the products of the last read that did not fail. -/
def lastRead (disks : List Disk) : List Product :=
  disks.foldl
    (fun products disk =>
      match readProductFiles unmarshal disk with
      | (_, some _) => products
      | (read, none) => read)
    []

/-- After the start and after each tick every request is answered from the last products read. -/
def KeepsCatalogue (lower : Char → Char) (first : Disk) (catalog : List Product)
    (ticks : List Disk) : Prop :=
  ∀ before, before <+: ticks → ∀ request,
    serve lower (reloadAll unmarshal catalog before) request =
      serve lower (lastRead unmarshal (first :: before)) request

end

variable {unmarshal : String → Except String ListProductsResponse} {lower : Char → Char}
  {catalog : List Product} {ticks : List Disk} {disk : Disk}

theorem readProductFiles_of_fails (h : Fails unmarshal disk) :
    (readProductFiles unmarshal disk).1 = [] := by
  unfold Fails readProductFiles at *
  split at h
  · rfl
  · split at h
    · rfl
    · split at h
      · rfl
      · exact absurd rfl h

theorem reloadAll_snoc : reloadAll unmarshal catalog (ticks ++ [disk]) =
    (readProductFiles unmarshal disk).1 := by
  unfold reloadAll
  rw [List.foldl_append]
  rfl

theorem lastRead_snoc_of_fails {disks : List Disk} (h : Fails unmarshal disk) :
    lastRead unmarshal (disks ++ [disk]) = lastRead unmarshal disks := by
  unfold lastRead
  rw [List.foldl_append, List.foldl_cons, List.foldl_nil]
  split
  · rfl
  · rename_i hread
    exact absurd (congrArg Prod.snd hread) h

theorem lastRead_snoc_of_not_fails {disks : List Disk} (h : ¬ Fails unmarshal disk) :
    lastRead unmarshal (disks ++ [disk]) = (readProductFiles unmarshal disk).1 := by
  unfold lastRead
  rw [List.foldl_append, List.foldl_cons, List.foldl_nil]
  split
  · rename_i hread
    exact absurd (fun hnone => nomatch (congrArg Prod.snd hread).symm.trans hnone) h
  · rename_i hread
    rw [hread]

theorem loadProductCatalog_eq_some (h : loadProductCatalog unmarshal disk = some catalog) :
    ¬ Fails unmarshal disk ∧ (readProductFiles unmarshal disk).1 = catalog := by
  unfold loadProductCatalog at h
  split at h
  · cases h
  · rename_i hread
    cases h
    rw [Fails, hread]
    exact ⟨not_not.mpr rfl, rfl⟩

/-- The answers tell the list of products. -/
theorem serve_inj {catalog catalog' : List Product}
    (h : ∀ request, serve lower catalog request = serve lower catalog' request) :
    catalog = catalog' := by
  have hlist := h .listProducts
  simp only [serve, listProducts, Response.listProducts.injEq,
    ListProductsResponse.mk.injEq] at hlist
  exact hlist

/-- **A failed reload keeps the catalogue exactly when** there is nothing to keep. -/
theorem keeps_catalogue_iff (unmarshal : String → Except String ListProductsResponse)
    (lower : Char → Char) (first : Disk) (catalog : List Product)
    (hstart : loadProductCatalog unmarshal first = some catalog) (ticks : List Disk) :
    KeepsCatalogue unmarshal lower first catalog ticks ↔
      ∀ before disk, before ++ [disk] <+: ticks → Fails unmarshal disk →
        lastRead unmarshal (first :: before) = [] := by
  obtain ⟨hread, hcatalog⟩ := loadProductCatalog_eq_some hstart
  constructor
  · intro h before disk hbefore hfails
    have hserved := serve_inj (h _ hbefore)
    rw [reloadAll_snoc, readProductFiles_of_fails hfails, ← List.cons_append,
      lastRead_snoc_of_fails hfails] at hserved
    exact hserved.symm
  · intro h before hbefore request
    -- a tick overwrites everything, so only the last one matters
    congr 1
    rcases List.eq_nil_or_concat' before with rfl | ⟨earlier, disk, rfl⟩
    · have hfirst := @lastRead_snoc_of_not_fails unmarshal first [] hread
      rw [← hcatalog]
      exact hfirst.symm
    · rw [reloadAll_snoc, ← List.cons_append]
      by_cases hfails : Fails unmarshal disk
      · rw [lastRead_snoc_of_fails hfails, readProductFiles_of_fails hfails,
          h earlier disk hbefore hfails]
      · rw [lastRead_snoc_of_not_fails hfails]

/-! ## A half-written file -/

def sampleText : String := "\x7b\"products\": [\x7b\"id\": \"OLJCESPC7Z\"\x7d]\x7d"

def emptyText : String := "\x7b\x7d"

def cutText : String := "\x7b\"products\": ["

def sampleUnmarshal (text : String) : Except String ListProductsResponse :=
  if text = sampleText then .ok { products := [{ id := "OLJCESPC7Z" }] }
  else if text = emptyText then .ok {}
  else .error "syntax error"

/-- A directory with one file. -/
def sampleDisk (text : String) : Disk where
  readDir _ := .ok [⟨"products.json", .ok "products.json"⟩]
  readFile _ := .ok text

/-- A tick fails while the catalogue is empty, and the next one finds the product again. -/
theorem keeps_catalogue_reread : Fails sampleUnmarshal (sampleDisk cutText) ∧
    KeepsCatalogue sampleUnmarshal Char.toLower (sampleDisk sampleText) [{ id := "OLJCESPC7Z" }]
      [sampleDisk emptyText, sampleDisk cutText, sampleDisk sampleText] := by
  refine ⟨by unfold Fails; decide +kernel, (keeps_catalogue_iff sampleUnmarshal Char.toLower
    (sampleDisk sampleText) [{ id := "OLJCESPC7Z" }] (by decide +kernel)
    [sampleDisk emptyText, sampleDisk cutText, sampleDisk sampleText]).mpr ?_⟩
  intro before disk hbefore hfails
  rcases before with _ | ⟨first, _ | ⟨second, _ | ⟨third, rest⟩⟩⟩
  · obtain rfl : disk = sampleDisk emptyText := by simpa using hbefore
    exact absurd (by decide +kernel) hfails
  · obtain ⟨rfl, rfl⟩ : first = sampleDisk emptyText ∧ disk = sampleDisk cutText := by
      simpa using hbefore
    decide +kernel
  · obtain ⟨-, -, rfl⟩ : first = sampleDisk emptyText ∧ second = sampleDisk cutText ∧
        disk = sampleDisk sampleText := by simpa using hbefore
    exact absurd (by decide +kernel) hfails
  · have hlength := hbefore.length_le
    simp only [List.length_append, List.length_cons, List.length_nil] at hlength
    omega

/-- The file is cut off when the second read finds it. -/
theorem catalogue_lost : ¬ ∀ unmarshal lower first catalog,
    loadProductCatalog unmarshal first = some catalog → ∀ ticks,
      KeepsCatalogue unmarshal lower first catalog ticks := by
  intro h
  have hkeeps := h sampleUnmarshal Char.toLower (sampleDisk sampleText) [{ id := "OLJCESPC7Z" }]
    (by decide +kernel) [sampleDisk cutText]
  have hserved := serve_inj (hkeeps _ (List.prefix_refl _))
  exact absurd hserved (by decide +kernel)

end AstronomyShop.ProductCatalog
