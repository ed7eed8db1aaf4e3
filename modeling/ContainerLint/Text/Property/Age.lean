import ContainerLint.Text.Property.Basic

/-!
# Ages of characters

One entry for each version of the character standard, the oldest first. The entry holds the
characters that the version added; the age property of a version also takes in those of all
older ones.
-/

namespace ContainerLint.CharProperty

/-- The versions of the standard, the oldest first, each with the characters that it added. -/
def ages : List CharProperty := [
  ⟨["v11", "1.1"],
    ["A1PEd4B4CHuBBJWlCaBSBEADAFGBABTBrBBGDABABABABRNLBhCBLBoBJ0BCBCBDbCHCB3BlBCGBmBBAmBJBIMaF",
    "EXAOADABZFSNNCnCCEBOBdCJnQCB0BCRCEDYQCBHCBCVBGBADDCABGCBCCJAEBBECUHACFEBCVBGBBBBBBCABEEB",
    "CCLDBAHOMCBGBABCBVBGBBBECJBCBCCAPAFJRCBHCBCVBGBBCDCHDBCCIBEBBCEKRBBFDCBDDBBABBDBDCDHBCEE",
    "DCBDJAPLOCBHBCBWBJBEEGBCBDHBJBEJSBBHBCBWBJBEEGBCBDHBHABBEJSBBHBCBWBPEFCCBDJAIBEJxE5BEclB",
    "BBACBBACAGDBGBCBABACBBMBCCEBABFCJCBiOlBKmBEAE5CFjCFxCmgD6EF5CGVCFClBCFCHBABABABeC0BBOBNC",
    "FBSCCBIBuBBWjBGDaRKlBRe4BavBN6CVxHOAB4DlEkBbKVqEV1EKvCQTG1CxEDBDCbBiBBABDDABGCGOeDXBNhiC",
    "3BHABzCEFC9CGnBE9CBPgDcDjBcbDxBPLEuBB2DEiDCehwGltU6iQtxGyGGMEGYBEBABBBBBrDhBsLQ_BC1BoBLk",
    "BDMUEJBSBDECBABmECAB9CC9CDFCFCFCCDGBGOC"]⟩,
  ⟨["v20", "2.0"],
    ["xsBQBMUA7pCnCBgBHaEFBABUDGBAh3DAvQA06iBj9K6iqCB.__BB.__BB.__BB.__BB.__BB.__BB.__BB.__BB.",
    "__BB.__BB.__BB.__BB.__BhggE"]⟩,
  ⟨["v21", "2.1"],
    ["slIAv63BA"]⟩,
  ⟨["v30", "3.0"],
    ["2PDeHCR1DExBAKE3CITA0DADABABABAeAMAiCAMAqBBCD8CB8EAoGCiDBFAPAqBEBNBdDa1BwBxuBBBRDXBIBACG",
    "DAEFBABHSC1LArBAXCHABCBOCAwBhBBEBBBGDDGZmNGB.BBABDCGBABDCmBBABDCeBABDCGBABDCGBGBWBeBABDC",
    "GBmBBSGbjB0CM1TJcDwCvE8CDJWOBJG3CIpBl8BAYF_CCyBB1CBoCAnDItIA5DABdqEBpOHhBA2CBuM_HgsBZB4C",
    "M1GaL8BCDAhLXoS1tGqyUskBDRCPBLBCBA2yVA7mBC"]⟩,
  ⟨["v31", "3.1"],
    ["0fB6u.BfwoBeBDMa1FlBClBy9yB1HKmBDzFiR0CBmCBBCACBCDBLBABDBBBgCBDCHBGBbBDBEBADGBxKEhJExBgg",
    "K22pBppU9QjvhWAe_C"]⟩,
  ⟨["v32", "3.2"],
    ["gRAuJATMoDBcAzEB5BBCBCBxBP.KBhKAlqCBnwBMBGLWJTMMBCBBzmCAGEEAHENA.BByBGyCOoFLyHN8DAezB8IT",
    "3EJ4CHWB6CLCJ.GN6CbEPgI_P7pBC3CBIB.CAwHPxCOxCOivcBQAMADAqrV6BxcADP1BBsBArHB"]⟩,
  ⟨["v40", "4.0"],
    ["hRASC3DB_BQwCHFC3EEkQDJIgCC1EBPAtBCdC0NA4FAjCABAoEA0CCNAjCA7BAhEHhGB_4CASJmIcDLELEADpBCE",
    "rDfgYrDnXBmHAzUBuJA0IB0DHOB.iBNv4BBxBArBBuCDnFDjDBfAguG_B9_rBApCB3NLBZBSBBBOCNiB6DFCEsBD",
    "IgSdBAmEBmBvCCJ2aFCABrBBBDACAg2yB2CqLA.hrYvH"]⟩,
  ⟨["v41", "4.1"],
    ["3RK2IE_ED2HBqFAiBCjCASA6BFxHdvQAwCAnPAvBApfBnJBBAqIA_BA_BAnBAfAfAfAPAnBAXBfZmvBpBGZGJEBg",
    "BbCBsa3CxUBBGxBEdD1BAwCAPAkUK8RAlDBSKFPuIGnaFsHuBBuBhBqDOsBK1BJAQWJGBGBGBGBGBGBGBGhBXEBi",
    "dPuFAnpbVk6BWpHrBkyUpD2ZJmZqC1QjBENqxBDBBFHBCBaECEIIIn9xBlC.iBB"]⟩,
  ⟨["v50", "5.0"],
    ["iSNrJCxKAqBFQDmFAlQ6BgMBBBibBNBtwDrCEsBnSGzBBsXD9CB1BA3SLqWA0IDpaGFD8JMHD_0eDFB.I3BokYZF",
    "Ag3FubxEiDNDs3rBR4iBB"]⟩,
  ⟨["v51", "5.1"],
    ["wbDCB3CA3FAsEPiHELEgBEuJRxPB.GAjBAuGAdBsDAsDAaBIBUH9FAGAdBMFDGrPBhDADCtCAFACAHCEFa_BEBqg",
    "CA1WqBDLmC3BDODyBrKb1FD6CFkLArEA.CA1BD0oBAVJDDoIAfDrZEEoBDE4ICBCEFiLfYDCS8XAiFT4ubH8pBrJ",
    "UfCRIbjEECqDuDEgEkCJLmBzCLAgF2BJNCJCDk.UCpbL0BtBiEcDwBvyBZFAp_xBA22HrBEjD"]⟩,
  ⟨["v52", "5.2"],
    ["kpBB6WtBCOhGAtCAGAjBBgEA5uBDhGD8FEkCEyCFgQA2TIwRlC0FBuBAlC.BBcCKGJGNiRiBqIA4VC3EC2BA.SA1",
    "VBdCEJBSBAEX3CA9fE2IANBrDG_JAygBL0rbHkoBvBgN3C4JJmFbkDcDtCBKEBgEbEiCYEgHtBCJ29KWEwBvzICy",
    "uDVBI6FBkKfgE1BDcCaFHgEoC3QehQhC.5HuhBxmvBKFeCALABACADADEIAHAZABBCAKDCAvDAPhBOI3ltB0hE"]⟩,
  ⟨["v60", "6.0"],
    ["mpBB4HA.BAgPbCA7GBTAGBbE6PFxNAQATA9RDpCBicBhjCzBID8PA4UHcAvZK6WATABDdAEBcAjBABAECJB0BCYA",
    "OAOBgtBAOA4hBClldBrJBBBOJwCAmYFCFCFJGBGjkUP.hFtCEdw8V4RnuRB.kQOCNCOBOwCABKBABBBCBCFHBGBJ",
    "GIBACBBJEBBJrCZBBvBIVBuFgBPFBlCDTMkBBEVQP.BBAB1FBDD9BSXzEEBPBCBABABABCBFCDBACDBLEKwBlC6B",
    "zDs.vB9G"]⟩,
  ⟨["v61", "6.1"],
    ["vsBA0DA7UABK3BaxPAtfBnPAFAvBCr1CCMFgIHrBD02CABAkpBBzBAFA4BBqGJwscAn1BHjBAyHBWAtCBmXW35TB",
    "w6D3BGBw4BYHJG0BBN8BoCHJmlB3BIJ2hWkCLuBQQgzfDBaBBBACABJBDBABAGAEABABABCBBBACABABABABABBB",
    "ACDBGBDBDBABJBQFCBEBQ0BB4TB0eD8FAQADABABABADAGBEABBEA"]⟩,
  ⟨["v62", "6.2"],
    ["6lIA"]⟩,
  ⟨["v63", "6.3"],
    ["8wBApyGD"]⟩,
  ⟨["v70", "7.0"],
    ["_bAoNH9CB2DA7UALFsCA4DAHA_TAzBAsCA_DAkHJhoCHkRBxMO5RBtHOlWC2ZGlYAsiBCKZCfChBDLBHqTG1ieF2",
    "HLLCCBlCAoPe9DDwFvBEBh2UG9aBTA_JbjBAwBqBlMnBIzBLAwE2JJVKH4H.BIIwOfgBmBELpERHDMGvmBAwGmB2",
    "CAMAGTLRBqByD6BFJHCBHCBCVBGBBBECICBCCJAFGCGDErInCIJmF1BCR2BkCLJmSyCMAgO4B2jCpBqGLFAruReB",
    "JEBgDdCFKlCKJBGBUFSwjUqDFMDIHJCH86KkGCPo_BAgBVVB0QLJAmCAWLlBAFDFLRGnCABA2FAEB_BBEGdRBoBB",
    "1CmCBNvBmCJQMDDsE0CrBLE3BIJGnBId"]⟩,
  ⟨["v80", "8.0"],
    ["zlCBuBA1QAgLAkIA10BACFgmDArGBgzCD9.cIo2BAwHAiBFkKBiTDMvCuzUBw1CSBBFE8FBCPCtBgUyBNyBHFpmB",
    "DOEgFGBABDBOBK2CAvCA5TTiJZDOEP5iDAmHjG81HmS38iBK3wBrUPEBO9jGCuCBvCEkBH_HArCEzHBrEA_RInDE",
    "7BA_yvBh0F"]⟩,
  ⟨["v90", "9.0"],
    ["2lCHWO9cAuGAECBGXCn4DIyLA_vBDkyCBpreA2IAnmWBhZjBEjBiqDAhO5CBABAiQMzsBIBsBBNKcDfCVBNp5UAf",
    "s_FTyXtoVGBQCGBBBE1mCqCFJEB7hCRuEA.ZApBAsJBhBCiRFBHIACLBLEOmBM"]⟩,
  ⟨["v100", "10.0"],
    ["gjCKxMB8HFgQA6BB69DA.HDlWA_ZAy.BAyTEkXAn1bUi6YCw2FnCIzBCWBE9SGBBBrBDABBBIIJn0UAghQ8IxCrM",
    "k7PFtjBBiBBnQLTAIHBBZASMmBF4BWpm1BwpH"]⟩,
  ⟨["v110", "11.0"],
    ["grBAnBAmDAtQCzGAqJA3DAtMA_DAz_CA3gBqBCC63DCWYEOrSEgXA71bE_9BAIBkKB0pYBSA3VnBIJmOnBIpBzLA",
    "2DC0PAiJA7VAlH7BhTAiWFBBBkBBBBFHJ2JYn6T6CyqGEu3ST.DG4nGjC6jBApuBA7GD0LCcECDDABDYKNJHBkBY",
    "gDN"]⟩,
  ⟨["v120", "12.0"],
    ["3jDAuQACACABFEAHAHBCANA_xDAu2DA1BAvSAqreFCE_cB4jZWojBA4SAnXHCtBCK_EB6pBxBNAwhFIs4OFEAvBI",
    "6CBugGF4qKCRD48LsBDNCJEBwL5BFAryBA1d8BuhBAorBAkBAlHLhJCvBAxBAJApBFDBKFDHCCwBzCcDECFCNF"]⟩,
  ⟨["v121", "12.1"],
    ["_3MA"]⟩,
  ⟨["v130", "13.0"],
    [".lCJtUAuNA8DA9pDB2mEA4VCobE2_GJwxUMq.BDqBB1BA7ZDwxVAjnDpBBCCB.Hb7LAmEBqUAFB.kBGCACHBBBdB",
    "BCLJJ2yBAzhUALBh4GiPqBIkgZC9CC9BAopBBjBBzNB6CAlDAEBqBBGCdAoFAODPSHGJCNGpByEB2BlBJ92qBGip",
    "Wq6E"]⟩,
  ⟨["v140", "14.0"],
    ["9wBAySeBBGHVASKpbAgBA_DAvxCAHAJAvHAxVN9DAwBB7TAlWAu7CAvBAzPK_scCg.BBOBBABEYCt.UA9LP_DAuB",
    "Bw7BKBOBGBBBKBOBGBBjOFBpBBI19BZmHFsCA2vBAmEGpbPwmFiD9zOuCBJmpRDBGBBgJD9uHtBCWJzDlRB1oDex",
    "bexpBGBDBBBO.2DCwIAoMAyCAuFBsBDKDICRCGHIGn_qBB1iED"]⟩,
  ⟨["v150", "15.0"],
    ["znDA6OAuhgCC_ZC.lCJ2fQBoBDb1mFAJc8mfAiBAqrITxiDFlI9BhBAgiBpBivEA3ECEE5CA7UCPBkBCLCBAOBKB",
    "MAOBgivBA2gX_iE"]⟩,
  ⟨["v151", "15.1"],
    ["8_LDvPAgwuFtT"]⟩,
  ⟨["v160", "16.0"],
    ["3kCA21EBvBApIB88BC6tDBlvdCMCjvXzBs6BlBDcIByJC3BAjkBJBACABlBBJBACABDBJBBIBtXT8mBhBOJgbAlo",
    "F68DloH5BmgD5Bl8HAg4P5HGzN84FqBEAy1EJEBnOAFAuBAHAVACAJAhHkB"]⟩]

end ContainerLint.CharProperty
