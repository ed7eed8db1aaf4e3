import ContainerLint.Text.Property.Basic

/-!
# Sentence boundaries

One entry for each value of the property Sentence_Break other than `other`.
-/

namespace ContainerLint.CharProperty

/-- The values of the property Sentence_Break. -/
def sentenceBreaks : List CharProperty := [
  ⟨["at", "aterm"],
    ["uBA1_HAtx3BA7FA"]⟩,
  ⟨["cr"],
    ["NA"]⟩,
  ⟨["cl", "close"],
    ["iBAECxBABAdABAtBAPA.zDD96BB7rCHZBKB2BBOB5TDdBwhBFHNvCBfJzMV_BDgBBigBNOBCJYASHrNJCHBC.ozB",
    "B3GBcPCBQFpFBxBABAdABABBBBy49BC"]⟩,
  ⟨["ex", "extend"],
    ["gYvDzIGnIsBBABBBBBAoCKwBUQAlDGCFCBBDjBAea7CK6BIJAYDBIBCBErBC7BIqBXBgB2BCBRBGKBdC4BABGCBC",
    "CJAKBaACC4BABEEBCCDAeBDALC4BABHBCBCUBWFBC4BABGCBCCHCKBeA7BEDCBDJAoBE3BABGBCBDHBLBdC4BABG",
    "BCBDHBLBPAMD3BBBGBCBDJAKBdCmCAEFBABHSB9BACGMHiDACILGpCBbABABAEBxBTBBFKBjBJAkDTXDECBCCGDD",
    "NLBAKD_VCydDcCdBeBgCfJAtBCBA1DBiBA2DLEL7GE5BJBcCAwBexBEvBQmBIMCeM4BNwBT4ECBUEAGACCmG_BsQ",
    "BiGgB._CCtEAgDfqRFpDB0udDBJgBBwCBwIADAEAXEEAzCByBRaRNAmBHZMsBDvBNkBAjCNMAIBtBCyBABCCBFBB",
    "ApBEFBsHHBBw5TAhXPQPuLB9SAiHA1EEm0BCBBFDoBCEAlFB9RDhCE9JBvCDmCKxBD6DC1BOpBACBKDtBKHA9BCk",
    "BNQBsBAMCwBNIDBB8CLGACA9ELVD3BBBGCBCCJAKBCGDEjCIBACABDBEBAOByCRXAxCTrHGCIbByCQqDMlDOgIO1",
    "HFBBCDBABBtEGCGDAcJoBGBDIAJKuBP1MHBHyCVBN6DFDABBBGBAiCEBBBE7KDJBBAwBGDEXAlnFAGOomLRguCE7",
    "BG4gBAB2BHDxCALBrlTBhzEtBCW.QEDFIHCGeD0EC79B2BExBIAOAWEBOwqBGBQCGBBBEkDAgFG3LA9BD8PD.HBg",
    "XGtDG12lY_CgEvH"]⟩,
  ⟨["fo", "format"],
    ["tFAyqBFWAgGAxBAgMBwCAr5DA8_BACBaExBEBJv03BA5HChmEAPAi7IPgjiBDvmFHm0rYA"]⟩,
  ⟨["lf"],
    ["KA"]⟩,
  ⟨["lo", "lower"],
    ["hDZvBAKAEAkBXBHBABABABABABABABABABABABABABABABABABABABABABABABABABABABBBABABABABABABABBB",
    "ABABABABABABABABABABABABABABABABABABABABABABACABABCCABACADBEACADCCACABABACABBBACADABACBC",
    "CGACACABABABABABABABABBBABABABABABABABABBCABADABABABABABABABABABABABABABABABABABABABABAB",
    "ABABABABABABABABGCACBBAEABABABABkCBjBHBeEsEABADACDSAbiBBBDCBABABABABABABABABABABABEBACAC",
    "BzBvBBABABABABABABABABABABABABABABABABAJABABABABABABABABABABABABABABABABABABABABABABABAB",
    "ABABACABABABABABABBBABABABABABABABABABABABABABABABABABABABABABABABABABABABABABABABABABAB",
    "ABABABABABABABABABABABABABAwBoBz7CA7XFikCIBA1D_FhCABABABABABABABABABABABABABABABABABABAB",
    "ABABABABABABABABABABABABABABABABABABABABABABABABABABABABABABABABABABABABABABABABABABABAB",
    "ABABABABABABABABABABABIBABABABABABABABABABABABABABABABABABABABABABABABABABABABABABABABAB",
    "ABABABABABABABABABABABABABABABABIIFKHIHIFKHIHINCHIHIHIEBBGADCBBIDCBIHKCBB5DANAQMtDADBDAb",
    "AEAEACBIDEAhBPEAraZm6BvBBADBBABABAEABBBHDABABABABABABABABABABABABABABABABABABABABABABABA",
    "BABABABABABABABABABABABABABABABABABABABABABABABABABBHABAEAMlBBAFAzoeABABABABABABABABABAB",
    "ABABABABABABABABABABABABATABABABABABABABABABABABABABClEABABABABABABCBABABABABABABABABABA",
    "BABABABABABABABABABABABABABABABABABABABABJBABACABABABABAEABACABCBABABABABABABABABABAFAFA",
    "BABABABABABABAEABACADABABABABABAWCBABC1ZqBBNGvCg6TGMEphBZtmBnBoEjB7EKBOBGBBjOACCBpBBIloB",
    "yB9DV65CfgsVf6sZZaGBRaZaDBABGBKaZaZaZaZaZaZaZaZabcYBFaYBFaYBFaYBFaYBFBA05BJBTGFlI9B0lChB"]⟩,
  ⟨["nu", "numeric"],
    ["wBJmxBJBBjEJmGJ8MJ2DJ2DJ2DJ2DJ2DJ2DJ2DJ2DJ2DJgDJ2DJmCJ2IJmCJm6BJmBJsJJgEJmFJGJ2FJ2CJmEJG",
    "JmuiBJmVJmBJmGJWJ2CJ2MJ24UJmsBJmkCJGJ8YJgEJ8BJwEJ2IJ2KJ2DJ2LJmDJGTsCJmNJmDJ2UJ2CJ2HJmCJm",
    "NJ2uQJmpCJ2CJmEJ2QJ27XJ02CxBgqCJmNJ2PJ3HJ1aJ20EJ"]⟩,
  ⟨["le", "oletter"],
    ["7NAEDwGAkBGGLaABAlEAkPA2DaEEsBqBjBBBiDBAPBHBKCCAQABdd4CLAYgBJBEAFVEAJADAXYHKFXBFRpB6B1BD",
    "ASAHJPPEHCBCVBGBADDDAQANBBCOBKAIFEBCVBGBBBBBBfDBATCQIBCBVBGBBBEDASAPBXALHCBCVBGBBBEDAeBB",
    "CPARABFDCBDDBBABBDBDCDLWA0BHBCBWBPDAaCCACBeAEHBCBWBJBEDAfBBBPBRIBCBoBCAQAFCICYFFRDXBIBAC",
    "G6BvBBBMG6BBBABEBXBABJBBJACEBAVDgBA_BHBjBbEzDqBUAQFEDDADBHCEMMAhCqBCrKBDCGBABDCoBBDCgBBD",
    "CGBABDCOB4BBDCiClBPxDrTCQBZFqCDKHRNSOROMBCPzBjBAEAjC4CHEChBBAFlCKexBdCELrBEZ2BWJ0ByCA9Cu",
    "BRH2BdNBKrBajBpBCKjBSqBCCpBDBFBBDA6hBDnCCCDn9C3BHAQWJGBGBGBGBGBGBGBGwCA1OCZIHECEE1CGCB5C",
    "BDFqBB9CRfwBPgQ_tGgCs0VjCtBCsIDPKBiCAQAgBvCnBIoDAGAnDADGBCBDBWdzBOxB.BFDABBLbKWZcHuBcAQE",
    "BJKEBoBXCBHUWDADxBBADBCECABAYCCKHCMFCFCFJGBGxEiBdj9KMWEwBkoItLCpDjCABJBMBEBABBBBBrDhBqLS",
    "_BC1BoBL0DEBmEpD3BCeDFCFCFCCjBLBZBSBBBOCNiB6DlC0BrIcDwBvBfNdFlBKdCjBEHBE6DtCiDnBIzB8CzBM",
    "2JJVKHZB9DFCABrBBBDACWKWJehCSBBKVKZmC3BGBgCAPDBCBcqBcDcjBHBbb1BKVKSNRuDoC3FjBmBFfAwIpBGB",
    "QC7BcKAIVqBRuBUbWM0B5BBCANsBgBYajBdACAIiBDAMvBODVABAjBRBYTB_BGBABDBOBJHuBmBHCBCVBGBBBEDA",
    "SAMEeJBACABlBBAZABAsB0BSDUCevBUBBA4FuBpBDkBvBUA7BqBNAnCalBG5FrBzGHCACHBBBXPABA.CHCmBQABA",
    "cAKnBHAVALtBTASoCnGgBfIBkBRAxBdwDGBBBlBVAZFBBBfOAnKSPABMBhB8DAvC5cmDuDRjGsyCgDPvhBRFZ68D",
    "FmS51Gdi3B4RHeRuCRdSvBQDfUFSwNsBzMqCFAiCMgCBBAc3_FI1mBpBJn3IDBGBBBiJPAdCCAODIrMkoCqDFMDI",
    "HJwzIA1PsBKGQAhKdSrBkPbkHdCAvPGBDBBBOBkGmEA0lBDBaBBBACABJBDBABAGAEABABABCBBBACABABABABAB",
    "BBACDBGBDBDBABJBQFCBEBQkqE_2pBgB5hEG9GCh0FOwpHPtTitC9QivBq6EF_iE"]⟩,
  ⟨["sc", "scontinue"],
    ["sBBMAipBAuFBqPApgEAFAqgCBs_DAuwzBBBAdBdBDACAKAoFBMApCA"]⟩,
  ⟨["st", "sterm"],
    ["hBAdApqBAzEC0FArBC2HA9BABADBlJBk3BB2YAEBlYAmGBsGAFA6JBiLDiFBKBCBdC7FBhCB8dBJCkvDANAWBtNA",
    "8ndAuIBjHADA.LB2CB_CA4EBzECwEB5HAqzUBpFAdAhCA03CB9nBEsBD9FB1DD_DChEBGAQB4CBBBsDAqJB1DB1L",
    "BFOpDB5HClQABA7HB3CBkNB0VBqCBp5SBlEAhCBLApRBoJAmwTAovHA"]⟩,
  ⟨["se", "sep"],
    ["lEAi9HB"]⟩,
  ⟨["sp"],
    ["JABBTA_DA_uFA_rCKkBAvBAg9DA"]⟩,
  ⟨["up", "upper"],
    ["hCZlDWBGhBABABABABABABABABABABABABABABABABABABABABABABABABABABABACABABABABABABABACABABAB",
    "ABABABABABABABABABABABABABABABABABABABABBBABADBBABBBCCDBBBCDBBBBABABBBACABBBCBABBDAHBBBB",
    "BBABABABABABABABACABABABABABABABABACBBABCBABABABABABABABABABABABABABABABABABABABABABABAB",
    "ABABABABABAHBBBCABDBABABABAhJABADAIAGABCBABBBQBIjBACCDABABABABABABABABABABABAFACABBCyBwB",
    "ABABABABABABABABABABABABABABABABAJABABABABABABABABABABABABABABABABABABABABABABABABABABAB",
    "BBABABABABABACABABABABABABABABABABABABABABABABABABABABABABABABABABABABABABABABABABABABAB",
    "ABABABABABABABABABABAClBp6ClBBAFAyW1CzkCA2LABABABABABABABABABABABABABABABABABABABABABABA",
    "BABABABABABABABABABABABABABABABABABABABABABABABABABABABABABABABABABABABABABABABABABABABA",
    "BABABABABABABABAJABABABABABABABABABABABABABABABABABABABABABABABABABABABABABABABABABABABA",
    "BABABABABABABABABABABABABAJHIFKHIHIFLABABABAIHYHIHIHIELELDMELElIAEADCCCCADEGABABABDCDKBF",
    "AaPTAyZZw5BvBwBABCCABABABDBACAICBABABABABABABABABABABABABABABABABABABABABABABABABABABABA",
    "BABABABABABABABABABABABABABABABABABABABABAIABAEAtqeABABABABABABABABABABABABABABABABABABA",
    "BABABABATABABABABABABABABABABABABABAnEABABABABABABADABABABABABABABABABABABABABABABABABAB",
    "ABABABABABABABABABABABABAKABABBBABABABAEABACABADABABABABABABABABABABEBEBABABABABABABABDB",
    "ABBDAFABABABAYAr5VZlmBnBoEjB8EKBOBGBBq3ByB9EV65CfgsVfgtZZaZaZaABBCACBCDBHaZaBBDCHBGbBBDB",
    "EBADGbZaZaZaZaZaZeYhBYhBYhBYhBYhBA1pEhBugCZGZGZ"]⟩]

end ContainerLint.CharProperty
