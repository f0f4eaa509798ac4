import CsiPowerscale.DeleteVolumeFrame

namespace CsiPowerscale
open GoLib Stores Effects Effects.Prog IsiService

namespace Controller

variable {svc : Service} {s : OneFS} {volumeID : Str} {v : VolumeID} {path isiPath : Str}

def twiceExported (description : Str) (quotas : Catalog Quota.num Quota.path) : OneFS :=
  { exportedVolume with
    quotas := quotas
    exports := ⟨⟨[⟨0, ["/ifs/data/vol1"], "System", description, [], [], [], [], []⟩,
      ⟨1, ["/ifs/data/vol1"], "System", [], [], [], [], [], []⟩],
      show ([0, 1] : List Nat).Nodup by decide⟩, 2,
      List.forall_mem_cons.2 ⟨Nat.zero_lt_two, List.forall_mem_singleton.2 Nat.one_lt_two⟩⟩ }

theorem twiceExported_exportBackedAt : ExportBackedAt (twiceExported description quotas)
    "vol1=_=_=1=_=_=System=_=_=c1" ⟨"vol1", 1, "System", "c1"⟩ "/ifs/data/vol1" "/ifs/data/" := by
  refine ⟨by decide, by decide, by decide, by decide, ⟨by decide, by decide⟩, ?_⟩
  rintro e ⟨⟩
  rfl

def twiceExportedWithQuota : OneFS := twiceExported "CSI_QUOTA_ID:0" exportedVolume.quotas

end Controller
end CsiPowerscale
