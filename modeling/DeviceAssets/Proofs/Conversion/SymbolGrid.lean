import DeviceAssets.Proofs.Bitmap.Bits
import DeviceAssets.Proofs.Conversion.Stages
import DeviceAssets.Proofs.Results

/-!
# The grid of a symbol

A symbol keeps its modules in one list, row by row, and its grid is that list cut into rows.
The side of a symbol is one more than a multiple of four, so no row of the packed grid ends
with a full octet.
-/

namespace DeviceAssets

namespace Qr.Symbol

/-- Nothing is added around the modules, and none is left out. -/
theorem flatten_grid (symbol : Symbol) : symbol.grid.flatten = symbol.modules.toList :=
  flatten_chunks symbol.side symbol.modules.toList

/-- The cell in column `x` of row `y` is the module that `y` rows and `x` modules precede. -/
theorem cell?_grid (symbol : Symbol) {x y : Nat} (hx : x < symbol.side) (hy : y < symbol.side) :
    ∃ dark, symbol.modules[y * symbol.side + x]? = some dark ∧
      symbol.grid.cell? x y = some dark := by
  have hplace : y * symbol.side + x < symbol.modules.size := by
    rw [symbol.size_modules]
    exact place_lt hx hy
  have hrow : y * symbol.side < symbol.modules.toList.length := by
    rw [Array.length_toList]
    omega
  refine ⟨_, Array.getElem?_eq_getElem hplace, ?_⟩
  rw [Grid.cell?, grid, getElem?_chunks symbol.side_pos hrow, Option.bind_some,
    List.getElem?_take, if_pos hx, List.getElem?_drop, Array.getElem?_toList,
    Array.getElem?_eq_getElem hplace]

/-- Some columns of the packed grid stand for no module. -/
theorem side_lt_stride (symbol : Symbol) : symbol.side < 8 * stride symbol.side := by
  rw [side, Version.side, stride]
  omega

/-- The best of some symbols is one of them. -/
theorem best_mem (first : Symbol) (others : List Symbol) :
    best first others ∈ first :: others := by
  rw [best]
  generalize first.penalty = least
  induction others generalizing first least with
  | nil => exact List.mem_cons_self
  | cons candidate rest ih =>
    rw [List.foldl_cons]
    dsimp only
    split
    · exact List.mem_cons_of_mem first (ih candidate _)
    · rcases List.mem_cons.mp (ih first least) with hfirst | hrest
      · rw [hfirst]
        exact List.mem_cons_self
      · exact List.mem_cons_of_mem first (List.mem_cons_of_mem candidate hrest)

/-- Masks leave the version alone. -/
theorem version_best_masked (draft : Draft) (masks : List Nat) :
    (best (draft.masked 0) (masks.map fun mask => draft.masked (mask + 1))).version =
      draft.version := by
  rcases List.mem_cons.mp (best_mem (draft.masked 0) (masks.map fun mask =>
    draft.masked (mask + 1))) with hfirst | hmasked
  · rw [hfirst]
    rfl
  · obtain ⟨mask, _, hmask⟩ := List.mem_map.mp hmasked
    rw [← hmask]
    rfl

/-- A symbol has the version that its content fits. -/
theorem exists_fit_of_encode {content : Bytes} {level : Level} {symbol : Symbol}
    (h : encode content level = .ok symbol) :
    ∃ list, fit level content = .ok (symbol.version, list) := by
  obtain ⟨⟨version, list⟩, hfit, rfl⟩ := map_eq_ok_iff.mp h
  refine ⟨list, ?_⟩
  dsimp only
  rw [version_best_masked, hfit]
  rfl

end Qr.Symbol

namespace Conversion

/-- The version that a text needs gives its grid the side. -/
theorem exists_symbolGrid_of_fit {content : String} {level : Qr.Level}
    {fitted : Qr.Version × List Qr.Segment}
    (h : Qr.fit level (Bytes.ofString content) = .ok fitted) :
    ∃ grid, symbolGrid content level = .ok grid ∧ grid.length = fitted.1.side := by
  obtain ⟨symbol, hencode⟩ : ∃ symbol,
      Qr.Symbol.encode (Bytes.ofString content) level = .ok symbol := by
    rw [Qr.Symbol.encode, h]
    exact ⟨_, rfl⟩
  obtain ⟨list, hfit⟩ := Qr.Symbol.exists_fit_of_encode hencode
  rw [h] at hfit
  cases hfit
  refine ⟨symbol.grid, ?_, symbol.length_grid⟩
  rw [symbolGrid, hencode]
  rfl

/-- A text without a symbol fails with what keeps it from having one. Otherwise its grid is
square with the side of one of the forty versions, each module is the cell at its own column
and row, and the rows make up the list of modules. The packer takes this grid, and every row
of octets ends with clear padding. -/
theorem symbol_grid_is_faithful (content : String) (level : Qr.Level) (session : Session) :
    match Qr.Symbol.encode (Bytes.ofString content) level with
    | .error e => ((moduleGrid content level).run session).1 = .error (.qr e)
    | .ok symbol =>
      1 ≤ symbol.version.number ∧ symbol.version.number ≤ 40 ∧
      symbol.side = 4 * symbol.version.number + 17 ∧
      ∃ grid packed, ((moduleGrid content level).run session).1 = .ok grid ∧
        grid.length = symbol.side ∧ (∀ row ∈ grid, row.length = symbol.side) ∧
        (∀ y < symbol.side, ∀ x < symbol.side, ∃ dark,
          symbol.modules[y * symbol.side + x]? = some dark ∧ grid.cell? x y = some dark ∧
          packed.get? x y = some dark) ∧
        grid.flatten = symbol.modules.toList ∧
        pack grid = .ok packed ∧ packed.modules = symbol.side ∧
        packed.bytes.length = symbol.side * (symbol.side ⌈/⌉ 8) ∧
        symbol.side < 8 * packed.stride ∧ packed.PaddingClear := by
  obtain ⟨lines, hrun⟩ := moduleGrid_reads content level session
  rw [hrun, symbolGrid]
  split
  · rename_i e hencode
    rw [hencode]
    rfl
  · rename_i symbol hencode
    rw [hencode]
    obtain ⟨packed, hpack, hmodules, _⟩ :=
      exists_pack_eq_ok symbol.grid_ne_nil symbol.square_grid
    rw [symbol.length_grid] at hmodules
    refine ⟨symbol.version.one_le, symbol.version.le_forty, rfl, symbol.grid, packed, rfl,
      symbol.length_grid, symbol.length_of_mem_grid, ?_, symbol.flatten_grid, hpack, hmodules,
      ?_, ?_, Packed.paddingClear_of_pack hpack⟩
    · intro y hy x hx
      obtain ⟨dark, hmodule, hcell⟩ := symbol.cell?_grid hx hy
      rw [← hmodules] at hy hx
      refine ⟨dark, hmodule, hcell, ?_⟩
      rw [Packed.get?_of_pack hpack hy (Packed.lt_stride hx), hcell, Option.getD_some]
    · rw [packed.length_bytes, packedLength, hmodules, stride_eq_ceilDiv]
    · rw [Packed.stride, hmodules]
      exact symbol.side_lt_stride

/-- The symbol for the empty text is of the smallest version: 21 rows of three octets. -/
theorem symbol_grid_is_faithful_empty :
    ∃ grid packed, ((moduleGrid "" .low).run ⟨Files.Tree.empty, []⟩).1 = .ok grid ∧
      grid.length = 21 ∧ pack grid = .ok packed ∧ packed.bytes.length = 63 := by
  have hversion : (Qr.fit .low (Bytes.ofString "")).toOption.map (fun fitted => fitted.1.number) =
      some 1 := by decide +kernel
  have hsome : (Qr.Symbol.encode (Bytes.ofString "") .low).toOption.isSome = true := by
    decide +kernel
  obtain ⟨symbol, hencode⟩ := Option.isSome_iff_exists.mp hsome
  rw [toOption_eq_some_iff] at hencode
  obtain ⟨list, hfit⟩ := Qr.Symbol.exists_fit_of_encode hencode
  rw [hfit] at hversion
  have hnumber : symbol.version.number = 1 := Option.some.inj hversion
  have hfaithful := symbol_grid_is_faithful "" .low ⟨Files.Tree.empty, []⟩
  rw [hencode] at hfaithful
  obtain ⟨_, _, hside, grid, packed, hgrid, hrows, _, _, _, hpack, _, hlength, _⟩ := hfaithful
  rw [hnumber] at hside
  rw [hside] at hrows hlength
  exact ⟨grid, packed, hgrid, hrows, hpack, hlength⟩

end Conversion

end DeviceAssets
