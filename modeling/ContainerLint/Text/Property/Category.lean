import ContainerLint.Text.Property.Basic

/-!
# General categories

One entry for each general category of characters and for each group of them (`l` for letters,
`m` for marks). The category of surrogates is left out: no character has it.
-/

namespace ContainerLint.CharProperty

/-- The general categories. -/
def categories : List CharProperty := [
  ⟨["c", "other"],
    ["Af_CgBNAqWBGDHABAUAtMAmBByBBDA3BHbDGQWAgGAwBB7BBlDN7BBxBBPAcBBALEfHrCAhFAIBCBWAHABCEBJBC",
    "BEHBDCAFBZBDAGDCBWAHACACACBBAFDCBDCBGEABGRJDAJADAWAHACAFBKADADBBOEBMGHADAIBCBWAHACAFBJBC",
    "BDGDDCAFBSJCAGCDAECCABACCCCDCMDFCDAEBBFBNVENADAXAQBJADAEGCADBBBEBKGWADAXAKAFBJADAEGCFCAE",
    "BKADLNADAzBADAGDQBaADASCYAJABBHCBDGABAIFKBDL6BDdkBCABAFAYABAXBFABAHAKBEfoCAkBDnBAkBAPANk",
    "BmGABEBB5LAEBHABAEBpBAEBhBAEBHABAEBPA5BAEBjCBgBCaF2CBGB9UC5CGWIYIULNADACL.CBKFKFOALF5CGr",
    "BEmCJfAMDMDBCqBBFKsBDaFLC.BBhCAdBLFKFOBfwBtCAmFH8BCPC.BErBBLHrBE2QBGBmBBGBIABABABAfB1BAP",
    "AOBGATBDAJALEaExBPCBbANChBOhBOsED6UVLU04BBgBA9KEtBABEBB4BGCNYIHAHAHAHAHAHAHAHA.DhBaA5CL2",
    "GZwCA2CBnDErBA.CA2CIwBAtzcC3BI8KT4FHuGBCABAIU7BCKF4BHmCHMF0DKeCuCALDhBA3BIOBKBnDXcJGBGBG",
    "IHAHA8BD.DBKFk9KLXDxBDggC_nGuLBqDlBHLFEaAFABACACA9DP9NB2BGBfqBFzBATAEDFAnED.FCGBGBGBDCHA",
    "HMCBMAaATACAPBOhB7DEDDtBC4CANCBuBuBhEdCxBOcDkBIeErBEeAlBDOpB.EBKFkBDkBDoBH0BKMAPAHACALAP",
    "AHACC0BL3JIWJIXGAqBAJkCGBBAsBACCBBXAoCHJvBTACEhBCbEB_B4BDUByBACEIADAdBDDKGJGgCfnBDMI2BCd",
    "BbEaGELHvCpC2BzBMzBGuBHKFmBCdHCvGfAqBADBCPD2BsBHqBValBcTXIuCDkBI.BAFMZGKF1BASHnBIgDAUKSA",
    "vB9BHABAEAPALF7BEKFEAIBCBWAHACAFAKBCBDBBFBEHBHCFKKABBBAmBAKABBBAEAKACHCc8CAFdoCHKlF2BBmB",
    "hBlCKKFNS6BFKFUbbBPDX4F8BjDzCLIBBBIACAeACBMIKlCIBuBBLaoCHzCMpCGK1FiBNKFJAtBAOJdCgBBWAOoC",
    "HACAsBCBACAJHKFGACAlBACAGGK1JZGRApBCd0CBOyBM7clDvDAFKkGryCjDMwhBPWJ78DEnS41G6Bl2B5RGfAKD",
    "xCAKFeBGJmCJKAHAVETvN6BlG7CkDrCD5BGR_BFKCN4_FH2mBoBKm3IEAHACAjJOBcDBBNEHsMjoCrDENCJGKBE_",
    "6D6HF0NrCuBBXI0D7B2HJnBBqCHwDUmC5DULUL3CIZmE1CAnCACBBBCBEAMABAHAhCAEBIAHAcAEAFABCHA0KBkJ",
    "B.VOFAPviBfFG0GHARBHACAFE.BgBBvDtBCOBKDC_JfQ6BEBvOqB1GrBDB_OHAEACAPAlGBQoBsCDKDCwYkCrC9B",
    "hGEAbACABBBAKAEABABFBDBABABADACABBBABABABABACABBEAHAEAEABAKAREDAFARzBCtIsBDkDLPBPAPAlBJu",
    "F3BdMsBDJGCNG5E4eDRCNC3DD_CFMDBOMD4BHKFoBHeBMDC9B0KLOBNCKE4BGPBLFJGzEAmDlgBg3pBf6hEF.GBi",
    "0FNxpHOuThtC.QhvBr6EEgjEvq3VwHvw_F"]⟩,
  ⟨["cc", "control", "cntrl"],
    ["Af_CgB"]⟩,
  ⟨["cf", "format"],
    ["tFAyqBFWAgGAxBAgMBwCAr5DA8_BEaExBEBJv03BA5HChmEAPAi7IPgjiBDvmFHm0rYAe_C"]⟩,
  ⟨["cn", "unassigned"],
    ["4bBGDHABAUAtMAmBByBBDA3BHbDGKuIA8BBlDN7BBxBBPAcBBALEfACEtHAIBCBWAHABCEBJBCBEHBDCAFBZBDAG",
    "DCBWAHACACACBBAFDCBDCBGEABGRJDAJADAWAHACAFBKADADBBOEBMGHADAIBCBWAHACAFBJBCBDGDDCAFBSJCAG",
    "CDAECCABACCCCDCMDFCDAEBBFBNVENADAXAQBJADAEGCADBBBEBKGWADAXAKAFBJADAEGCFCAEBKADLNADAzBADA",
    "GDQBaADASCYAJABBHCBDGABAIFKBDL6BDdkBCABAFAYABAXBFABAHAKBEfoCAkBDnBAkBAPANkBmGABEBB5LAEBH",
    "ABAEBpBAEBhBAEBHABAEBPA5BAEBjCBgBCaF2CBGB9UC5CGWIYIULNADACL.CBKFKFaF5CGrBEmCJfAMDMDBCqBB",
    "FKsBDaFLC.BBhCAdBLFKFOBfwBtCAmFH8BCPC.BErBBLHrBE2QBGBmBBGBIABABABAfB1BAPAOBGATBDAJAlDAMB",
    "bANChBOhBOsED6UVLU04BBgBA9KEtBABEBB4BGCNYIHAHAHAHAHAHAHAHA.DhBaA5CL2GZwCA2CBnDErBA.CA2CI",
    "wBAtzcC3BI8KT4FHuGBCABAIU7BCKF4BHmCHMF0DKeCuCALDhBA3BIOBKBnDXcJGBGBGIHAHA8BD.DBKFk9KLXDx",
    "BDuzIBqDlBHLFEaAFABACACA9DP9NB2BGBfqBFzBATAEDFAnEBBA.FCGBGBGBDCHAHJFBMAaATACAPBOhB7DEDDt",
    "BC4CANCBuBuBhEdCxBOcDkBIeErBEeAlBDOpB.EBKFkBDkBDoBH0BKMAPAHACALAPAHACC0BL3JIWJIXGAqBAJkC",
    "GBBAsBACCBBXAoCHJvBTACEhBCbEB_B4BDUByBACEIADAdBDDKGJGgCfnBDMI2BCdBbEaGELHvCpC2BzBMzBGuBH",
    "KFmBCdHCvGfAqBADBCPD2BsBHqBValBcTXIuCDkBIkCJBBZGKF1BASHnBIgDAUKSAvB9BHABAEAPALF7BEKFEAIB",
    "CBWAHACAFAKBCBDBBFBEHBHCFKKABBBAmBAKABBBAEAKACHCc8CAFdoCHKlF2BBmBhBlCKKFNS6BFKFUbbBPDX4F",
    "8BjDzCLIBBBIACAeACBMIKlCIBuBBLaoCHzCMpCGK1FiBNKFJAtBAOJdCgBBWAOoCHACAsBCBACAJHKFGACAlBAC",
    "AGGK1JZGRApBCd0CBOyBM7clDvDAFKkGryCjDM2iBJ78DEnS41G6Bl2B5RGfAKDxCAKFeBGJmCJKAHAVETvN6BlG",
    "7CkDrCD5BGR_BFKCN4_FH2mBoBKm3IEAHACAjJOBcDBBNEHsMjoCrDENCJGKBI76D6HF0NrCuBBXI0D7B2HJnBBi",
    "GUmC5DULUL3CIZmE1CAnCACBBBCBEAMABAHAhCAEBIAHAcAEAFABCHA0KBkJB.VOFAPviBfFG0GHARBHACAFE.Bg",
    "BBvDtBCOBKDC_JfQ6BEBvOqB1GrBDB_OHAEACAPAlGBQoBsCDKDCwYkCrC9BhGEAbACABBBAKAEABABFBDBABABA",
    "DACABBBABABABABACABBEAHAEAEABAKAREDAFARzBCtIsBDkDLPBPAPAlBJuF3BdMsBDJGCNG5E4eDRCNC3DD_CF",
    "MDBOMD4BHKFoBHeBMDC9B0KLOBNCKE4BGPBLFJGzEAmDlgBg3pBf6hEF.GBi0FNxpHOuThtC.QhvBr6EEgjEwi3V",
    "BdgD_DwHvw_B.__BB.__BB"]⟩,
  ⟨["co", "privateuse"],
    ["gg4B_nGg4hc9__BC9__B"]⟩,
  ⟨["l", "letter"],
    ["hCZGZvBAKAEAFWBeBpOELOEHABAhEEBBCDBAGABCBABTByCBqEIlFBlBCAGoBnCaEDtBqBjBBBiDBAPBHBKCCAQA",
    "Bdd4CLAYgBJBEAFVEAJADAXYHKFXBFRpB6B1BDASAHJPPEHCBCVBGBADDDAQANBBCOBKAIFEBCVBGBBBBBBfDBAT",
    "CQIBCBVBGBBBEDASAPBXALHCBCVBGBBBEDAeBBCPARABFDCBDDBBABBDBDCDLWA0BHBCBWBPDAaCCACBeAEHBCBW",
    "BJBEDAfBBBPBRIBCBoBCAQAFCICYFFRDXBIBACG6BvBBBMG6BBBABEBXBABJBBJACEBAVDgBA_BHBjBbEzDqBUAQ",
    "FEDDADBHCEMMARlBBAFACqBBsKBDCGBABDCoBBDCgBBDCGBABDCOB4BBDCiClBPQ1CCFDrTCQBZFqCGHHRNSOROM",
    "BCPzBjBAEAjC4CHEChBBAFlCKexBdCELrBEZ2BWJ0ByCA9CuBRH2BdNBKrBajBpBCKjBCKFqBCCpBDBFBBDAF_Fg",
    "C1ICFClBCFCHBABABABeC0BBGBADCBGDDCFEMFCBG0DANAQMlDAEACJBADEGABABABDBKCDFEEA0BB7zCkHGDDBM",
    "lBBAFAC3BHAQWJGBGBGBGBGBGBGBGwCA1OBqBEFBE1CGCB5CBDFqBB9CRfwBPgQ_tGgCs0VjCtBCsIDPKBUuBQeC",
    "lCxBICmDCiCCBBABHVPBCBDBWdzBOxB.BFDABBLbKWZcHuBcAQEBJKEBoBXCBHUWDADxBBADBCECABAYCCKHCMFC",
    "FCFJGBGBqBBNGyDdj9KMWEwBkoItLCpDmBGMEFABJBMBEBABBBBBrDhBqLS_BC1BoBL0DEBmEkBZGZL4CDFCFCFC",
    "CjBLBZBSBBBOCNiB6DlMcDwBvBfNTBHGlBKdCjBEHwB9ESjBEjBEnBIzBMKBOBGBBBKBOBGBBDzBM2JJVKHYFBpB",
    "BIlCFCABrBBBDACWKWJehCSBBKVKZmC3BGBgCAPDBCBcqBcDcjBHBbb1BKVKSNRuDoC3ByBNyBNjBmBbJW6HpBGB",
    "QC7BcKAIVqBRuBUbWM0B5BBCANsBgBYajBdACAIiBDAMvBODVABAjBRBYTB_BGBABDBOBJHuBmBHCBCVBGBBBEDA",
    "SAMEeJBACABlBBAZABAsB0BSDUCevBUBBA4FuBpBDkBvBUA7BqBNAnCalBG5FrB0D_BfHCACHBBBXPABA.CHCmBQ",
    "ABAcAKnBHAVALtBTASoCnGgBfIBkBRAxBdwDGBBBlBVAZFBBBfOAnKSPABMBhB8DAvC5cmHjGsyCgDPvhBRFZ68D",
    "FmS51Gdi3B4RHeRuCRdSvBQDfUFSwNsBzG_BgEqCFAiCMgCBBAc3_FI1mBpBJn3IDBGBBBiJPAdCCAODIrMkoCqD",
    "FMDIHJm7F0CBmCBBCACBCDBLBABGBgCBDCHBGBbBDBEBADGBzKCYBYBeBYBeBYBeBYBeBYBH05BeGFlI9ByEsBKG",
    "QAhKdSrBkPbkHdCAvPGBDBBBOBkG7BjCHA0lBDBaBBBACABJBDBABAGAEABABABCBBBACABABABABABBBACDBGBD",
    "BDBABJBQFCBEBQkqE_2pBgB5hEG9GCh0FOwpHPtTitC9QivBq6EF_iE"]⟩,
  ⟨["lc", "casedletter"],
    ["hCZGZ6BAKWBeBiGBDEvGCZgGDCBDCBAGABCBABTByCBqEIlFBlBJoB34ClBBAFACqBCCgV1CCFikCKFqBCCgCrB_",
    "BMBhBlD1ICFClBCFCHBABABABeC0BBGBADCBGDDCFEMFCBGlIAEACJBADEGABABABDBFEACDFEEA0BB7zC7DCmDG",
    "DDBMlBBAFAyoetBSbmEtCBWDDB9BCBBABHYBDA1ZqBFIHvCg6TGMEpgBZGZllBvCgDjBEjB0DKBOBGBBBKBOBGBB",
    "j2ByBNyB9CVKV64C_BgrV_BgsZ0CBmCBBCACBCDBLBABGBgCBDCHBGBbBDBEBADGBzKCYBYBeBYBeBYBeBYBeBYB",
    "H05BJBTGF1uCjC"]⟩,
  ⟨["ll", "lowercaseletter"],
    ["hDZ6BApBXBHBABABABABABABABABABABABABABABABABABABABABABABABABABABABBBABABABABABABABBBABAB",
    "ABABABABABABABABABABABABABABABABABABABABACABABCCABACADBEACADCCACABABACABBBACADABACBCCGAC",
    "ACABABABABABABABABBBABABABABABABABABBCABADABABABABABABABABABABABABABABABABABABABABABABAB",
    "ABABABABABABGCACBBAEABABABABkCCZhGABADADCSAbiBBBDCBABABABABABABABABABABABEBACACBzBvBBABA",
    "BABABABABABABABABABABABABABABAJABABABABABABABABABABABABABABABABABABABABABABABABABABACABA",
    "BABABABABBBABABABABABABABABABABABABABABABABABABABABABABABABABABABABABABABABABABABABABABA",
    "BABABABABABABABABAwBoBn6CqBCC4XFikCIBA1DrB_BMBhBmDABABABABABABABABABABABABABABABABABABAB",
    "ABABABABABABABABABABABABABABABABABABABABABABABABABABABABABABABABABABABABABABABABABABABAB",
    "ABABABABABABABABABABABIBABABABABABABABABABABABABABABABABABABABABABABABABABABABABABABABAB",
    "ABABABABABABABABABABABABABABABABIIFKHIHIFKHIHINCHIHIHIEBBGADCBBIDCBIHKCBByIADBDAbAEAEACB",
    "IDEA1BAr1CvBBADBBABABAEABBBFFABABABABABABABABABABABABABABABABABABABABABABABABABABABABABA",
    "BABABABABABABABABABABABABABABABABABABABBHABAEAMlBBAFAzoeABABABABABABABABABABABABABABABAB",
    "ABABABABABABATABABABABABABABABABABABABABAnEABABABABABABCBABABABABABABABABABABABABABABABA",
    "BABABABABABABABABABABABABABABABHBABACABABABABAEABACABCBABABABABABABABABABAFAFABABABABABA",
    "BABAEABACADABABABABABAaADA1ZqBFIHvCg6TGMEphBZtmBnBoEjB7EKBOBGBBj4ByB9DV65CfgsVf6sZZaGBRa",
    "ZaDBABGBKaZaZaZaZaZaZaZaZabcYBFaYBFaYBFaYBFaYBFBA05BJBTGF3vChB"]⟩,
  ⟨["lm", "modifierletter"],
    ["wVRELOEHABAlEAFA.OAmHAkFBtIBEAfAJADAgFAnFA0mBA_DA1RA62BArDAjTAwOFuF.BNAiBkBxVANAQM_.CBxH",
    "A_FA1OArBEFAhDB9CC24bAinBFuIAyDAcB5DIwCAXApDCDB1OAWApEAsDAVBnDDJAmgVAtBBg_BFBpBBIzsBAgBA",
    "wuXD8PCoBBmRMgCBBAsgQDBGBBxhM9BpGGtdA_iBA"]⟩,
  ⟨["lo", "otherletter"],
    ["qFAPAgIAEDwGB6ZaEDtBfBJjBBBiDBAYBKCCAQABdd4CLAYgBVVqBYHKFXBFRoB7B1BDASAHJQOEHCBCVBGBADDD",
    "AQANBBCOBKAIFEBCVBGBBBBBBfDBATCQIBCBVBGBBBEDASAPBXALHCBCVBGBBBEDAeBBCPARABFDCBDDBBABBDBD",
    "CDLWA0BHBCBWBPDAaCCACBeAEHBCBWBJBEDAfBBBPBRIBCBoBCAQAFCICYFFRDXBIBACG6BvBBBMF7BBBABEBXBA",
    "BJBBJACEXDgBA_BHBjBbEzDqBUAQFEDDADBHCEMMAxDoKBDCGBABDCoBBDCgBBDCGBABDCOB4BBDCiClBPxDrTCQ",
    "BZFqCGHHRNSOROMBCPzBoBAjCiBB0BHEChBBAFlCKexBdCELrBEZ2BWJ0BwFuBRH2BdNBKrBajBpBCKdxDDBFBBD",
    "A6hBD3_C3BYWJGBGBGBGBGBGBGBGnRA1BAE1CIAB5CEAFqBB9CRfwBPgQ_tGgC0wUB2jBjCnBIrIEPKBiCAxBlCp",
    "FAnDADGBCBDBWdzBOxB.BFDABBLbKWZcHuBtBECIKEBoBXCBHUPBFDADxBBADBCECABAYBDKHAOFCFCFJGBGxEiB",
    "dj9KMWEwBkoItLCpDjCABJBMBEBABBBBBrDhBqLS_BC1BoBL0DEBmEpDJBsBCeDFCFCFCCjBLBZBSBBBOCNiB6Dl",
    "McDwBvBfNTBHGlBKdCjBEHgEtCiDnBIzB8CzBM2JJVKH4EFCABrBBBDACWKWJehCSBBKVKZmC3BGBgCAPDBCBcqB",
    "cDcjBHBbb1BKVKSNRuDoC3FjBmBDBAwJpBGBQC7BcKAIVqBRuBUbWM0B5BBCANsBgBYajBdACAIiBDAMvBODVABA",
    "jBRBYTB_BGBABDBOBJHuBmBHCBCVBGBBBEDASAMEeJBACABlBBAZABAsB0BSDUCevBUBBA4FuBpBDkBvBUA7BqBN",
    "AnCalBG5FrBzGHCACHBBBXPABA.CHCmBQABAcAKnBHAVALtBTASoCnGgBfIBkBRAxBdwDGBBBlBVAZFBBBfOAnKS",
    "PABMBhB8DAvC5cmHjGsyCgDPvhBRFZ68DFmS51Gdi3B4RHeRuCRdSvBzBUFSzNnB1MqCFAvF3_FI1mBpBJ33IiJP",
    "AdCCAODIrMkoCqDFMDIHJwzIA1PsBhBAhKdSrBkPalHdCAvPGBDBBBOBkG7pBDBaBBBACABJBDBABAGAEABABABC",
    "BBBACABABABABABBBACDBGBDBDBABJBQFCBEBQkqE_2pBgB5hEG9GCh0FOwpHPtTitC9QivBq6EF_iE"]⟩,
  ⟨["lt", "titlecaseletter"],
    ["lOACACAmBA1sHHIHIHMAPAvBA"]⟩,
  ⟨["lu", "uppercaseletter"],
    ["hCZlDWBGhBABABABABABABABABABABABABABABABABABABABABABABABABABABABACABABABABABABABACABABAB",
    "ABABABABABABABABABABABABABABABABABABABABBBABADBBABBBCCDBBBCDBBBBABABBBACABBBCBABBDAHACAC",
    "ACABABABABABABABACABABABABABABABABACACABCBABABABABABABABABABABABABABABABABABABABABABABAB",
    "ABABABABABAHBBBCABDBABABABAhJABADAIAGABCBABBBQBIjBACCDABABABABABABABABABABABAFACABBCyBwB",
    "ABABABABABABABABABABABABABABABABAJABABABABABABABABABABABABABABABABABABABABABABABABABABAB",
    "BBABABABABABACABABABABABABABABABABABABABABABABABABABABABABABABABABABABABABABABABABABABAB",
    "ABABABABABABABABABABAClBp6ClBBAFAyW1CzkCAGqBCCgKABABABABABABABABABABABABABABABABABABABAB",
    "ABABABABABABABABABABABABABABABABABABABABABABABABABABABABABABABABABABABABABABABABABABABAB",
    "ABABABABABABABABABABAJABABABABABABABABABABABABABABABABABABABABABABABABABABABABABABABABAB",
    "ABABABABABABABABABABABABABABABAJHIFKHIHIFLABABABAIHoCDMDMDMELDmIAEADCCCCADEGABABABDCDKBF",
    "A9BA8zCvBwBABCCABABABDBACAICBABABABABABABABABABABABABABABABABABABABABABABABABABABABABABA",
    "BABABABABABABABABABABABABABABABABABABAIABAEAtqeABABABABABABABABABABABABABABABABABABABABA",
    "BABATABABABABABABABABABABABABABAnEABABABABABABADABABABABABABABABABABABABABABABABABABABAB",
    "ABABABABABABABABABABAKABABBBABABABAEABACABADABABABABABABABABABABEBEBABABABABABABABDBABBD",
    "AFABABABAYAr5VZlmBnBoEjB8EKBOBGBBq3ByB9EV65CfgsVfgtZZaZaZaABBCACBCDBHaZaBBDCHBGbBBDBEBAD",
    "GbZaZaZaZaZaZeYhBYhBYhBYhBYhBA1pEhB"]⟩,
  ⟨["m", "mark", "combiningmark"],
    ["gYvDzIGnIsBBABBBBBAoCKwBUQAlDGCFCBBDjBAea7CK6BIJAYDBIBCBErBC7BIqBXBgB2BCBRBGKBdC4BABGCBC",
    "CJAKBaACC4BABEEBCCDAeBDALC4BABHBCBCUBWFBC4BABGCBCCHCKBeA7BEDCBDJAoBE3BABGBCBDHBLBdC4BABG",
    "BCBDHBLBPAMD3BBBGBCBDJAKBdCmCAEFBABHSB9BACGMHiDACILGpCBbABABAEBxBTBBFKBjBJAkDTXDECBCCGDD",
    "NLBAKD_VCydDcCdBeBgCfJAtBCBA1DBiBA2DLEL7GE5BJBcCAwBexBEvBQmBIMCeM4BNwBT4ECBUEAGACCmG_BwW",
    "gB._CCtEAgDfqRFpDB0udDBJgBBwCBwIADAEAXEEAzCByBRaRNAmBHZMsBDvBNkBAjCNMAIBtBCyBABCCBFBBApB",
    "EFBsHHBBw5TAhXPQPteAiHA1EEm0BCBBFDoBCEAlFB9RDhCE9JBvCDmCKxBD6DC1BOpBACBKDtBKHA9BCkBNQBsB",
    "AMCwBNIDBB8CLGACA9ELVD3BBBGCBCCJAKBCGDEjCIBACABDBEBAOByCRXAxCTrHGCIbByCQqDMlDOgIO1HFBBCD",
    "BABBtEGCGDAcJoBGBDIAJKuBP1MHBHyCVBN6DFDABBBGBAiCEBBBE7KDJBBAwBGDEXAlnFAGOomLRguCE7BG4gBA",
    "B2BHDxCALBrlTBhzEtBCW.QEDFIHCGeD0EC79B2BExBIAOAWEBOwqBGBQCGBBBEkDAgFG3LA9BD8PD.HBgXGtDG1",
    "9lYvH"]⟩,
  ⟨["mc", "spacingmark"],
    ["joCA3BACCIDBByBB6BCGBCBKArBA6BCiCA6BCIABB1BB6BABAGBCBKAmDBBBDCBCKApBC9BD9BB6BABECBBBJBcA",
    "OB6BCFCBCKAqBBrCCGHSBqKB_BArFBEAGACBZBKCCGVBCFCAKC4zBAeAhEAHHBB6KDCCEBBFgHB6BABAJABBIFxE",
    "AwBAFABEBB9BAeAEBCA8BACCBADBwBHIBrFAVA25EBz_dBCA4CByBPuEBvBAwBBEBCCuDBCBYAtBABAtDACBFAtH",
    "BBBBBBAzgZABA_DAtBCEBzDAYB7BAwBCJBNA9CCDBBAqFCfB6BBBDCBCCJAKB0CCHACABDBBBAlDCIBDAqDCGABD",
    "CAtHCGDCAxDCIBBAtDABBGAnDABBEAlICJA3HFBBEACABAuECIDEA0CAdB.BA3MAOAqDAHACA1GEEBBA.KBMAwBB",
    "IBBAovQCkxD2BoDBzrYBGF"]⟩,
  ⟨["me", "enclosingmark"],
    ["okBB0xFA.wBDBCrshBC"]⟩,
  ⟨["mn", "nonspacingmark"],
    ["gYvDzIEpIsBBABBBBBAoCKwBUQAlDGCFCBBDjBAea7CK6BIJAYDBIBCBErBC7BIqBXBf3BABAEHEADGKBdA6BAED",
    "IAUBaACB5BAEBEBCCDAeBDALB5BAEEBBEAUBWFBA6BACABDIAHBLBeA9BAMAyBADA3BABCFCBDHBLBdA6BACAGAF",
    "BUBcB5BBEDIAUBdAoCAHCBA6CACGMHiDACILGpCBbABABA3BNBEBBFKBjBJAmDDBFBBCBZBECQDNACBGAPA_VCyd",
    "CdBeBeBgCBBGIACKJAtBCBA1DBiBA2DCEBJAGC7GBCA6BABGBABACHGJCAwBNBPxBDwBABEBAFAoBIMBgBDCBBC4",
    "BABBDABC6BHCB4ECBMBGEAGADBmG_BwWMEADL._CCtEAgDfqRDrDB0udAEJgBBwCBwIADAEAZBFA3EBaRNAmBHZK",
    "uBCwBACDCBnBAjCFCBCBMAIAvBAzBABCCBFBBAqBBIAuHACAEAw5TAhXPQPteAiHA1EEm0BCBBFDoBCEAlFB9RDh",
    "CE9JBvCDmCKxBD7DA2BOpBACBKCxBDCBHA9BCkBEBH.BAMB0BIKDCA_CCCABBGACA9EADHVB5BBDAlBGDEmCFNAB",
    "ABAOB1CHCCBAXA0CFBAEBBBuHDGBBBbB1CHCABBqDABACFBAlDABACDBEjIIBBgIBBAEAwEDCBEAgBJoBFCDIAJF",
    "CCuBMBB2MGBFBAyCVCGBBBB6DFDABBBGBAoCBDABA7KBLB0BEFABAXAlnFAGOomLLDCguCE7BG4gBA_BDxCA4lTB",
    "hzEtBCWgRCRHCGeD0EC79B2BExBIAOAWEBOwqBGBQCGBBBEkDAgFG3LA9BD8PD.HBgXGtDG19lYvH"]⟩,
  ⟨["n", "number"],
    ["wBJ4DBFACChtBJmEJmGJ8MJ2DJEFsDJ2DJ2DJCFuDMzDJIGnDJoDGHStDJgDJ2DJmCTsIJmCJvWTxbCvHJGJWJsJ",
    "JgEKlFJGJ2FJ2CJmEJGJ2gBADFGJmGyBCE2W7BuCV2TdprBApYAZIOC3KDqEJeHBOgBJnBOg7cJ8FJgKF6EJmBJm",
    "GJWJ2CJ2MJ24UJtPsBM4BRB1KakBDdAIAmEEqGJudHZGnBIrCEWFgFBCPCtBgCI0BBeCrCEoDHYHpBGqKFwBJGJ2",
    "Ie.EJqBDwDGmEdgEJ8BJwEJHT7HJ2KJ2DJ2LJmDJGTsCLkNS9CJ2UJ2CcjHJmCJmNJmDUrhBuDhmPJmpCJ2CJmEJ",
    "BGuQJmIW5yXJmuBTMTsDY1iBxBgqCJmNJ2PJ3HJsWIgEJ3Y6BBCBDsCsBBOieMj3CJ"]⟩,
  ⟨["nd", "decimalnumber", "digit"],
    ["wBJmxBJmEJmGJ8MJ2DJ2DJ2DJ2DJ2DJ2DJ2DJ2DJ2DJgDJ2DJmCJ2IJmCJm6BJmBJsJJgEJmFJGJ2FJ2CJmEJGJm",
    "uiBJmVJmBJmGJWJ2CJ2MJ24UJmsBJmkCJGJ8YJgEJ8BJwEJ2IJ2KJ2DJ2LJmDJGTsCJmNJmDJ2UJ2CJ2HJmCJmNJ",
    "2uQJmpCJ2CJmEJ2QJ27XJ02CxBgqCJmNJ2PJ3HJ1aJ20EJ"]⟩,
  ⟨["nl", "letternumber"],
    ["u3FCvzCiBCD.zDAZIOCr1dJwyW0BsOAIAmEEqhIuD"]⟩,
  ⟨["no", "othernumber"],
    ["yFBFACC1pCF4LF4DClEG5GGRIxNJ1hBTzjBJgPA10BADFGJmGPpBA2W7BuCV2TdprBA0kBDqEJeHBOgBJnBOwrdF",
    "xmWsBhCDRB1KakBD0pBHZGnBIrCEWFgFBCPCtBgCI0BBeCrCEoDHYHpBGqKFgLe.EJqBDwDGmET7LTlqBBuNInbS",
    "zaUm8SG.YWphZTMTsDYuqFIhd6BBCBDsCsBBOieM"]⟩,
  ⟨["p", "punctuation", "punct"],
    ["hBCBFBDKBDBaCBAbABAjBAFADAKBDADA.VAIAyOFpBBzBABACACAsBBUBBBNABCqCDmDArBNpHC2BOfAlIBKAsEA",
    "4DA5DAmMAMAvLA6CAKBoFOBAlBDnCAqCEEBvDFrFAkTI3EAtTAsBBuCCnCB9ECBClBK5JB4GBgEGBFgFBKGcC8DD",
    "7BE.BBgCHLA8ZXITBMBLeBOB5TDdB9hBNvCBfJzMV_BDgBB7XDBBwDAvEuBBfCLjNCEJCLQAMAiDA6CAigdBtICj",
    "DAKAzDF8LD2CBoBCBAxBBvBAhDMQB8DD.DBQB5HAyqUBwGJWiBBNBAEABB1ECBFBDKBDBaCBAbABABG6MC8UAwBA",
    ".MAnXAnGAfAwIImBAwDGiCG5CDxOA.JAnFEsBD9FGtDBBD.DDwBBvCDEANABC4CFrDAqJBBByDEKBBAoDA6HWpDC",
    "cMsCAiEC8HAoIC7EA8CHzCCBE9CJ3GA_CEqBBlUBqCMvFAwjBE87CB7zOBlEAhCEIAoRCnJDnKA8lTAnvHEz7CA.",
    "aB"]⟩,
  ⟨["pc", "connectorpunctuation"],
    ["_CA_.HBTA.u3BBYCvHA"]⟩,
  ⟨["pd", "dashpunctuation"],
    ["tBA8qBAzBAhyDAlgBApgCFhwDACAfBEAcA.NATAvDAwszBBlBAKApFAgzDA.JA"]⟩,
  ⟨["pe", "closepunctuation"],
    ["pBAzBAfA91DABA.6BAptCA3BAPA6TABAeA.hBABABABABABABAwCAgBABABABABA0MABABABABABABABABABABAg",
    "CABAhBAlhBABABABAsBABABABAsNABABABABADABABABACB.ozBA5GAdABABABABABABABADARABABAqFAzBAfAC",
    "ACA"]⟩,
  ⟨["pf", "finalpunctuation"],
    ["7FA96HADAcAouDABAEACAPADA"]⟩,
  ⟨["pi", "initialpunctuation"],
    ["rFAs7HACBCAZAouDABAEACAPADA"]⟩,
  ⟨["po", "otherpunctuation"],
    ["hBCBCCABABBKBDBbAkCAFAOBHA.VAIAyOFpBA2BACACAsBBUBBBNABCqCDmDArBNpHC2BOfAlIBKAsEA4DA5DAmM",
    "AMAvLA6CAKBoFOBAwDAqCEEBvDFrFAkTIlYA8DCnCB9ECBClBFBD5JB4GBgEGBFgFBKGcC8DD7BE.BBgCHLAiaBI",
    "HIICDCCDKBABJ6kDDBBwDAvEBECCACIBBBACBKEBJCDBABMCCsNC5BA9FAigdBtICjDAKAzDF8LD2CBoBCBAxBBv",
    "BAhDMQB8DD.DBQB5HAkxUGCAWAUBCDDCBDHCGABB1ECBCCABABBKBDBbAkBACB6MC8UAwBA.MAnXAnGAfAwIImBA",
    "wDGiCG5CD4dEsBD9FGtDBBD.DDwBBvCDEANABC4CFrDAqJBBByDEKBBAoDA6HWpDCcMsCAiEC8HAoIC7EA8CHzCC",
    "BE9CJ3GA_CEqBBlUBqCMvFAwjBE87CB7zOBlEAhCEIAoRCnJDnKA8lTAnvHEz7CA.aB"]⟩,
  ⟨["ps", "openpunctuation"],
    ["oBAyBAfA.1DABA.6BA.rCADAmBA3BAPA6TABAeA.hBABABABABABABAwCAgBABABABABA0MABABABABABABABABA",
    "BABAgCABAhBAlhBABABABAZASABABABAsNABABABABADABABABACAhpzBA3GAdABABABABABABABADARABABAqFA",
    "yBAfADACA"]⟩,
  ⟨["s", "symbol"],
    ["kBAGAQCfABAbABAjBEBBCABDCADAeAfAqODMNFGBABQ1DAOBwDArEAqIC2DCCACBuGAKATB3HAHBoEApLBGB1HA.",
    "DAiEHkEAvGApBAlGAhGCPABCCFUABABAlEHBFBBFDlGBwXJzWAtLAkLA9EhBhLJJIgiBABCLCNCNCNBlCANAnBCN",
    "CTgB_BBBDBBKABCFFBABABAEALBEEFDBA6BBE3LEcC.HWKxCtCWnTsBwBCeKyMW.BEfC1LCfBoDlHFlLBuBZB4CM",
    "1GaPEANBMAVBGB7CBzHBEJgBlBJAQeLdIAPfKmBP_JguG_Bw0V2B5RWJBnDB9EDKD9RChHAOB99TAoEQ9LP_DAsB",
    "DiDABCCA6EAGAQCfABAbABAhEGBGNB5JI5BQCCBMDAvBsB6zBBvSAlWBvtCA1kCcq6SDFA2qUAj7DvHQzN8EzD8B",
    "1HKmBC7BFCWBHdE8BVhCDA6F2CqbAZAfAZAfAZAfAZAfAZA8B_P3BDyBHBNBBo2BAvNAstCADA9DAhOBuIrBEjDM",
    "OCOBOBkBXgF4BcNrBEIHBOF6E3eEQDMD2DE.CGLEAPLE3BIJGnBIdCLEB.BzKMNCMDJF3BHOCKGIHyEB7C"]⟩,
  ⟨["sc", "currencysymbol"],
    ["kBA9DDpnBA7DAyPByPBHA1HAnIAlSA7sCAkmCgB37hBAjuVAsDA6EA7GBDB2_HD.4wBAwtCA"]⟩,
  ⟨["sk", "modifiersymbol"],
    [".CABAnCAGAEADApQDMNFGBABQ1DAOBioBA05FABCLCNCNCNB8kEBjzdWJBnDBweAOBmiUQ7bABAiFA3g9BE"]⟩,
  ⟨["sm", "mathsymbol"],
    ["rBAQC9BABAtBAEAlBAfA.XAvQC7xGANAnBCNCrEAnBEGAkCEFBEACACAHAfBCABAfrIgBB6CAeYoBF1OAJA2BHvD",
    "AwKECeKPgIiEW.BEfChIwBUCF8.zBA4ZABCkFAQC9BABAjEAGDhtDBxpyBAZAfAZAfAZAfAZAfAZAs5FB"]⟩,
  ⟨["so", "othersymbol"],
    ["mFACAEABAxeAqIB_DBuGAKATB3HAjQA1LAiEFBAkEAvGApBAnMCPABCCFUABABAlEHBFBBFDlGBwXJzWAyWA9EhB",
    "hLJJIjsBBBDBBKABBGFBABABAEALBOABBBA6BBJECDBBBBBGBeCBBABesIHETCGCwCBdZnBGnCWKxCtCW2FBIB1B",
    "IuDB3HsBrBgC_HgQvBVBGmBCfBoDlHFlLBuBZB4CM1GaPEANBMAVBGBwKBEJgBlBJAQeLdIAPfKmBP_JguG_Bw0V",
    "2BhbDKBBA9RCm2UP_DAtBCkPADAEBNB5JI5BQCCBMDAvBsB6zBBvSA2jDA1kCHEQq6SDFA2qUAj7DvHQzN8EzD8B",
    "1HKmBC7BFCWBHdE8BVhCDA6F2CplB_P3BDyBHBNBBo2BA86CAhEAxWrBEjDMOCOBOBkBXgF4BcNrBEIHBOF6E6HF",
    "3WEQDMD2DE.CGLEAPLE3BIJGnBIdCLEB.BzKMNCMDJF3BHOCKGIHyEB7C"]⟩,
  ⟨["z", "separator"],
    ["gBA_DA_uFA_rCKdBFAvBAg9DA"]⟩,
  ⟨["zl", "lineseparator"],
    ["ohIA"]⟩,
  ⟨["zp", "paragraphseparator"],
    ["phIA"]⟩,
  ⟨["zs", "spaceseparator"],
    ["gBA_DA_uFA_rCKkBAvBAg9DA"]⟩]

end ContainerLint.CharProperty
