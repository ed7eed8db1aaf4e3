import ContainerLint.Text.Property.Basic

/-!
# Characters that quoting leaves alone

Quoted text escapes the characters that have no glyph of their own, and those that would join
the glyph of the quote before them.
-/

namespace ContainerLint.Text

/-- The characters without a glyph: controls, formats, unassigned and private code points,
separators. The space is one of them. -/
def glyphlessCode : List String :=
    ["AgB.ChBMAqWBGDHABAUAtMAmBByBBDA3BHbDGQWAgGAwBB7BBlDN7BBxBBPAcBBALEfHrCAhFAIBCBWAHABCEBJB",
    "CBEHBDCAFBZBDAGDCBWAHACACACBBAFDCBDCBGEABGRJDAJADAWAHACAFBKADADBBOEBMGHADAIBCBWAHACAFBJB",
    "CBDGDDCAFBSJCAGCDAECCABACCCCDCMDFCDAEBBFBNVENADAXAQBJADAEGCADBBBEBKGWADAXAKAFBJADAEGCFCA",
    "EBKADLNADAzBADAGDQBaADASCYAJABBHCBDGABAIFKBDL6BDdkBCABAFAYABAXBFABAHAKBEfoCAkBDnBAkBAPAN",
    "kBmGABEBB5LAEBHABAEBpBAEBhBAEBHABAEBPA5BAEBjCBgBCaF2CBGBgUAcC5CGWIYIULNADACL.CBKFKFOALF5",
    "CGrBEmCJfAMDMDBCqBBFKsBDaFLC.BBhCAdBLFKFOBfwBtCAmFH8BCPC.BErBBLHrBE2QBGBmBBGBIABABABAfB1",
    "BAPAOBGATBDAJQYHvBQCBbANChBOhBOsED6UVLU04BBgBA9KEtBABEBB4BGCNYIHAHAHAHAHAHAHAHA.DhBaA5CL",
    "2GZQA_BA2CBnDErBA.CA2CIwBAtzcC3BI8KT4FHuGBCABAIU7BCKF4BHmCHMF0DKeCuCALDhBA3BIOBKBnDXcJGB",
    "GBGIHAHA8BD.DBKFk9KLXDxBDggC_nGuLBqDlBHLFEaAFABACACA9DP9NB2BGBfqBFzBATAEDFAnED.FCGBGBGBD",
    "CHAHMCBMAaATACAPBOhB7DEDDtBC4CANCBuBuBhEdCxBOcDkBIeErBEeAlBDOpB.EBKFkBDkBDoBH0BKMAPAHACA",
    "LAPAHACC0BL3JIWJIXGAqBAJkCGBBAsBACCBBXAoCHJvBTACEhBCbEB_B4BDUByBACEIADAdBDDKGJGgCfnBDMI2",
    "BCdBbEaGELHvCpC2BzBMzBGuBHKFmBCdHCvGfAqBADBCPD2BsBHqBValBcTXIuCDkBI.BAFMZGKF1BASHnBIgDAU",
    "KSAvB9BHABAEAPALF7BEKFEAIBCBWAHACAFAKBCBDBBFBEHBHCFKKABBBAmBAKABBBAEAKACHCc8CAFdoCHKlF2B",
    "BmBhBlCKKFNS6BFKFUbbBPDX4F8BjDzCLIBBBIACAeACBMIKlCIBuBBLaoCHzCMpCGK1FiBNKFJAtBAOJdCgBBWA",
    "OoCHACAsBCBACAJHKFGACAlBACAGGK1JZGRApBCd0CBOyBM7clDvDAFKkGryCjDMwhBPWJ78DEnS41G6Bl2B5RGf",
    "AKDxCAKFeBGJmCJKAHAVETvN6BlG7CkDrCD5BGR_BFKCN4_FH2mBoBKm3IEAHACAjJOBcDBBNEHsMjoCrDENCJGK",
    "BE_6D6HF0NrCuBBXI0D7B2HJnBBqCHwDUmC5DULUL3CIZmE1CAnCACBBBCBEAMABAHAhCAEBIAHAcAEAFABCHA0K",
    "BkJB.VOFAPviBfFG0GHARBHACAFE.BgBBvDtBCOBKDC_JfQ6BEBvOqB1GrBDB_OHAEACAPAlGBQoBsCDKDCwYkCr",
    "C9BhGEAbACABBBAKAEABABFBDBABABADACABBBABABABABACABBEAHAEAEABAKAREDAFARzBCtIsBDkDLPBPAPAl",
    "BJuF3BdMsBDJGCNG5E4eDRCNC3DD_CFMDBOMD4BHKFoBHeBMDC9B0KLOBNCKE4BGPBLFJGzEAmDlgBg3pBf6hEF.",
    "GBi0FNxpHOuThtC.QhvBr6EEgjEvq3VwHvw_F"]

/-- The characters that extend the glyph before them. -/
def extendingCode : List String :=
    ["gYvDzIGnIsBBABBBBBAoCKwBUQAlDGCFCBBDjBAea7CK6BIJAYDBIBCBErBC7BIqBXBf3BABAEHEADGKBdA6BABA",
    "CDIAJAKBaACB5BAEBEBCCDAeBDALB5BAEEBBEAUBWFBA6BABBBDIAHCKBeA7BABAMAJAoBADA3BABCFCBDHBLBdA",
    "6BACBBADCBDHBLBcB5BBBACDIAJAKBdAoCAEACCBAIAxCACGMHiDACILGpCBbABABA3BNBEBBFKBjBJAmDDBFBBC",
    "BZBECQDNACBGAPA_VCydDcCdBeBgCBBGIACKJAtBCBA1DBiBA2DCEBJAGC7GBCA6BABGBABACHGJCAwBexBDwBJE",
    "CmBIMBgBDCF4BABBDABE4BHCB4ECBMBGEAGADBmG_BsQAjGgB._CCtEAgDfqRFpDB0udDBJgBBwCBwIADAEAZBFA",
    "3EBaRNAmBHZKBAsBCwBACDCBCAkBAjCFCBCBMAIAvBAzBABCCBFBBAqBBIAuHACAEAw5TAhXPQPuLB9SAiHA1EEm",
    "0BCBBFDoBCEAlFB9RDhCE9JBvCDmCKxBD7DA2BOpBACBKCxBDCBHA9BCkBEBH.BAMB0BIBAIDCA_CCCDGACA9EAD",
    "HVB5BBBABAMAJAOGDEjCACFBACABCECBAOB1CHCCBAXAxCACFBACABBBBrHACDGBBBbB1CHCABBqDABACHlDABAC",
    "DBEjIIBB1HAKDEAwEDCBEAgBJoBFCDIAJFCCuBMBB2MGBFBAyCVCGBBBB6DFDABBBGBAoCBDABA7KBLB0BEFCXAl",
    "nFAGOomLLDCguCE7BG4gBA_BDxCALBrlTBhzEtBCW.QEDFIHCGeD0EC79B2BExBIAOAWEBOwqBGBQCGBBBEkDAgF",
    "G3LA9BD8PD.HBgXGtDG12lY_CgEvH"]

/-- The ranges of the characters without a glyph. -/
def glyphlessRanges : List (Nat × Nat) := RangeCode.ranges glyphlessCode

/-- The ranges of the characters that extend the glyph before them. -/
def extendingRanges : List (Nat × Nat) := RangeCode.ranges extendingCode

/-- Whether `c` has a glyph, or is the space. -/
def isPrintable (c : Char) : Bool :=
  c = ' ' || !CharSet.inRanges glyphlessRanges c.toNat

/-- Whether `c` extends the glyph before it. -/
def isExtending (c : Char) : Bool := CharSet.inRanges extendingRanges c.toNat

end ContainerLint.Text
