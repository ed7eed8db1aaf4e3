import ContainerLint.Text.Property.Basic

/-!
# Grapheme cluster boundaries

One entry for each value of the property Grapheme_Cluster_Break other than `other`.
-/

namespace ContainerLint.CharProperty

/-- The values of the property Grapheme_Cluster_Break. -/
def graphemeBreaks : List CharProperty := [
  ⟨["cr"],
    ["NA"]⟩,
  ⟨["cn", "control"],
    ["AJBBBR_CgBNAurBAxvEA8_BACBYGxBPv03BAwHL0hNPgjiBDvmFHl0rYfgD_DwHvwD"]⟩,
  ⟨["ex", "extend"],
    ["gYvDzIGnIsBBABBBBBAoCKwBUQAlDGCFCBBDjBAea7CK6BIJAYDBIBCBErBC7BIqBXBf3BABAEHEADGKBdA6BABA",
    "CDIAJAKBaACB5BAEBEBCCDAeBDALB5BAEEBBEAUBWFBA6BABBBDIAHCKBeA7BABAMAJAoBADA3BABCFCBDHBLBdA",
    "6BACACADAFBHBLBcB5BBBACDIAJAKBdAoCAEACCBAIAxCACGMHiDACILGpCBbABABA3BNBEBBFKBjBJAmDDBFBBC",
    "BZBECQDNACBGAPA_VCydCdBeBeBgCBBGIACKJAtBCBA1DBiBA2DCEBJAGC7GBCA6BABGBABACHGJCAwBexBDwBGB",
    "AFAoBIMBgBDCBBC4BABBDABC6BHCB4ECBMBGEAGADBmG_BsQAjGgB._CCtEAgDfqRFpDB0udDBJgBBwCBwIADAEA",
    "ZBFA3EBaRNAmBHZKuBCwBACDCBnBAjCFCBCBMAIAvBAzBABCCBFBBAqBBIAuHACAEAw5TAhXPQPuLB9SAiHA1EEm",
    "0BCBBFDoBCEAlFB9RDhCE9JBvCDmCKxBD7DA2BOpBACBKCxBDCBHA9BCkBEBH.BAMB0BIKDCA_CCCABBGACA9EAD",
    "HVB5BBBABAWAOGDEjCACFBACABCECBAOB1CHCCBAXAxCACFBACABBBBrHACDGBBBbB1CHCABBqDABACFBAlDCCDB",
    "EjIIBB1HAKBBAEAwEDCBEAgBJoBFCDIAJFCCuBMBB2MGBFBAyCVCGBBBB6DFDABBBGBAoCBDABA7KBLB0BEFABAX",
    "AlnFAGOomLLDCguCE7BG4gBA_BDxCA4lTBhzEtBCW.QABCEEIHCGeD0EC79B2BExBIAOAWEBOwqBGBQCGBBBEkDA",
    "gFG3LA9BD8PD.HBgXGtDGw1CEghjY_CgEvH"]⟩,
  ⟨["l"],
    ["goE_CggmBc"]⟩,
  ⟨["lf"],
    ["KA"]⟩,
  ⟨["lv"],
    ["ggrBAbAbAbAbAbAbAbAbAbAbAbAbAbAbAbAbAbAbAbAbAbAbAbAbAbAbAbAbAbAbAbAbAbAbAbAbAbAbAbAbAbAb",
    "AbAbAbAbAbAbAbAbAbAbAbAbAbAbAbAbAbAbAbAbAbAbAbAbAbAbAbAbAbAbAbAbAbAbAbAbAbAbAbAbAbAbAbAb",
    "AbAbAbAbAbAbAbAbAbAbAbAbAbAbAbAbAbAbAbAbAbAbAbAbAbAbAbAbAbAbAbAbAbAbAbAbAbAbAbAbAbAbAbAb",
    "AbAbAbAbAbAbAbAbAbAbAbAbAbAbAbAbAbAbAbAbAbAbAbAbAbAbAbAbAbAbAbAbAbAbAbAbAbAbAbAbAbAbAbAb",
    "AbAbAbAbAbAbAbAbAbAbAbAbAbAbAbAbAbAbAbAbAbAbAbAbAbAbAbAbAbAbAbAbAbAbAbAbAbAbAbAbAbAbAbAb",
    "AbAbAbAbAbAbAbAbAbAbAbAbAbAbAbAbAbAbAbAbAbAbAbAbAbAbAbAbAbAbAbAbAbAbAbAbAbAbAbAbAbAbAbAb",
    "AbAbAbAbAbAbAbAbAbAbAbAbAbAbAbAbAbAbAbAbAbAbAbAbAbAbAbAbAbAbAbAbAbAbAbAbAbAbAbAbAbAbAbAb",
    "AbAbAbAbAbAbAbAbAbAbAbAbAbAbAbAbAbAbAbAbAbAbAbAbAbAbAbAbAbAbAbAbAbAbAbAbAbAbAbAbAbAbAbAb",
    "AbAbAbAbAbAbAbAbAbAbAbAbAbAbAbAbAbAbAbAbAbAbAbAbAbAbAbAbAbAbAbAbAbAbAbAbAbAbAbAbAbAbAbAb",
    "AbAbAbAbA"]⟩,
  ⟨["lvt"],
    ["hgrBaBaBaBaBaBaBaBaBaBaBaBaBaBaBaBaBaBaBaBaBaBaBaBaBaBaBaBaBaBaBaBaBaBaBaBaBaBaBaBaBaBaB",
    "aBaBaBaBaBaBaBaBaBaBaBaBaBaBaBaBaBaBaBaBaBaBaBaBaBaBaBaBaBaBaBaBaBaBaBaBaBaBaBaBaBaBaBaB",
    "aBaBaBaBaBaBaBaBaBaBaBaBaBaBaBaBaBaBaBaBaBaBaBaBaBaBaBaBaBaBaBaBaBaBaBaBaBaBaBaBaBaBaBaB",
    "aBaBaBaBaBaBaBaBaBaBaBaBaBaBaBaBaBaBaBaBaBaBaBaBaBaBaBaBaBaBaBaBaBaBaBaBaBaBaBaBaBaBaBaB",
    "aBaBaBaBaBaBaBaBaBaBaBaBaBaBaBaBaBaBaBaBaBaBaBaBaBaBaBaBaBaBaBaBaBaBaBaBaBaBaBaBaBaBaBaB",
    "aBaBaBaBaBaBaBaBaBaBaBaBaBaBaBaBaBaBaBaBaBaBaBaBaBaBaBaBaBaBaBaBaBaBaBaBaBaBaBaBaBaBaBaB",
    "aBaBaBaBaBaBaBaBaBaBaBaBaBaBaBaBaBaBaBaBaBaBaBaBaBaBaBaBaBaBaBaBaBaBaBaBaBaBaBaBaBaBaBaB",
    "aBaBaBaBaBaBaBaBaBaBaBaBaBaBaBaBaBaBaBaBaBaBaBaBaBaBaBaBaBaBaBaBaBaBaBaBaBaBaBaBaBaBaBaB",
    "aBaBaBaBaBaBaBaBaBaBaBaBaBaBaBaBaBaBaBaBaBaBaBaBaBaBaBaBaBaBaBaBaBaBaBaBaBaBaBaBaBaBaBaB",
    "aBaBaBaBa"]⟩,
  ⟨["pp", "prepend"],
    ["gwBF3GAxBAgMBwCArjBAu7gCAPA0HBtQAtrBABA4HApCF8VA7NA"]⟩,
  ⟨["ri", "regionalindicator"],
    ["mv8DZ"]⟩,
  ⟨["sm", "spacingmark"],
    ["joCA3BACCIDBByBB7BBGBCB2BA6BCiCA6BCIABB1BB8BAGBCByDABBDCBC0BC9BD9BB6BABBBBCBBBnBAOB7BBFC",
    "BC1BBsCBGGTB_BA_DAqEB_BAxFAJBZBsBAw0BAeAhEAHHBB6KDCCEBBFgHB6BABAVFxEA2BABEBB9BAeAEBCA8BA",
    "CCBADBwBHIBrFAVAr5iBBCA4CByBPuEBvBAwBBEBCCuDBCBYA9EACBFAtHBBBBBBAzgZABA_DAtBCEBzDAYB7BAw",
    "BCJBNA9CCDBBAqFCfB7BABDCBCCUB1CBPABBnDCIBDArDBGABBBACAuHBGDCAxDCIBBAtDABBGAvDAlICJA4HEBB",
    "EACABAuECIDEA0CAdB.BA3MAOAqDAHACA1GEEBBA.KBMAwBBIBBAovQCkxD2BoDB0rYAGA"]⟩,
  ⟨["t"],
    ["otE3CruxBwB"]⟩,
  ⟨["v"],
    ["grEnCowxBW8slBADD"]⟩,
  ⟨["zwj"],
    ["tgIA"]⟩]

end ContainerLint.CharProperty
