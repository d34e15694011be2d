import WindowKeeper.Settings.Store

namespace WindowKeeper

class LawfulStore (σ : Type) [Store σ] : Prop where
  settings_setPlacement : ∀ (p : Placement) (st : σ),
    Store.settings (Store.setPlacement p st) = { Store.settings st with placement := p }
  settings_setWorkMode : ∀ (m : WorkMode) (st : σ),
    Store.settings (Store.setWorkMode m st) = { Store.settings st with workMode := m }
  settings_setNativeFrame : ∀ (b : Bool) (st : σ),
    Store.settings (Store.setNativeFrame b st) = { Store.settings st with nativeFrame := b }
  settings_requestSave : ∀ st : σ, Store.settings (Store.requestSave st) = Store.settings st
  settings_flush : ∀ (st : σ) (t : Tree),
    Store.settings (Store.flush st t).2.1 = Store.settings st

attribute [simp] LawfulStore.settings_setPlacement LawfulStore.settings_setWorkMode
  LawfulStore.settings_setNativeFrame LawfulStore.settings_requestSave LawfulStore.settings_flush

namespace FileStore

theorem settings_flush (f : FileStore) (t : Tree) : (f.flush t).2.1.settings = f.settings := by
  unfold flush
  split
  · cases Settings.saveWithRetry f.path f.settings t with
    | mk r u => cases r <;> rfl
  · rfl

instance : LawfulStore FileStore where
  settings_setPlacement _ _ := rfl
  settings_setWorkMode _ _ := rfl
  settings_setNativeFrame _ _ := rfl
  settings_requestSave _ := rfl
  settings_flush := settings_flush

end FileStore

instance : LawfulStore MemoryStore where
  settings_setPlacement _ _ := rfl
  settings_setWorkMode _ _ := rfl
  settings_setNativeFrame _ _ := rfl
  settings_requestSave _ := rfl
  settings_flush st _ := by
    change (if st.dirty then _ else _ : MemoryStore).settings = st.settings
    split <;> rfl

end WindowKeeper
