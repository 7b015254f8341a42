/-!
# Names of characters from L to N

The names are in order, without blanks and without hyphens inside words, and cut into lines of one length.
Each name starts with how many characters it shares with the one before it, from `a` for none to `z` for 25; a
plus sign adds 26.
-/

namespace PythonAudit

namespace Text

namespace CharacterName

/-- The names that start with L. -/
def namesL : List String :=
  ["aLABCOATdELcCROSSESTICKANDBALLcDDERdYBEETLEcNGUAGETAGcOCANCELLATIONMARKdDIGITEIGHTiFIVEjOURiNINEiONEiSEVENjIXi",
    "THREEjWOiZEROdELLIPSISdHOMOfNOdKOLAdLETTERBOjCOjDOjFOFAYmONlSUNGlTAMjHOSUNGlTAMjKHMUGOnNYOlOSUNGmTAMkOjLOlLING",
    "mOOTjMOjNGOkOkYOjOjPALIBHAnCHAnDDApHAoHAnGHAnJHAnLLAnNNAoYAnTTApHAkHOSUNGmTAMkOjROjSANSKRITSHAsSAkOSUNGlTAMjTH",
    "OSUNGmTAMkOjWOjYOdNIGGAHITAdSEMIVOWELSIGNLOqNYOeIGNPALIVIRAMAdTONEMAICATAWAkEKkTHOlIdVOWELSIGNAnAnInMnYmEnImIn",
    "ImMAIKANqONmOmUnUmYnYdYAMAKKANcRGEBLUECIRCLEjDIAMONDjSQUAREgROWNCIRCLEkSQUAREfCIRCLEfDOWNTACKfGREENCIRCLEkSQUA",
    "REfLEFTTRIANGLEOPERATORfONEDOTOVERTWODOTSPUNCTUATIONiRINGOVERTWORINGSPUNCTUATIONgRANGECIRCLElDIAMONDlSQUAREfPU",
    "RPLECIRCLElSQUAREfREDCIRCLEiSQUAREgTHANkOREQUALTOfTRIPLEVERTICALBAROPERATORgWODOTSOVERONEDOTPUNCTUATIONiRINGSO",
    "VERONERINGPUNCTUATIONfUPTACKfYELLOWCIRCLElSQUAREdISIGNcSTQUARTERMOONpSYMBOLpWITHFACEcTINCAPITALLETTERAtAtEuWIT",
    "HACUTEyMACRONtFRICANDtLPHAtNGLICANAWtOtUtVuWITHHORIZONTALBARtWITHACUTExBREVE+cANDACUTE+fDOTBELOW+fGRAVE+fHOOKA",
    "BOVE+fTILDExCARONyIRCUMFLEX+hANDACUTE+kDOTBELOW+kGRAVE+kHOOKABOVE+kTILDExDIAERESIS+gANDMACRONyOTABOVE+fANDMACR",
    "ON+aBELOWzUBLEGRAVExGRAVExHOOKABOVExINVERTEDBREVExMACRONxOGONEKxRINGABOVE+gANDACUTE+bBELOWxSTROKExTILDEtYsBtET",
    "AtROKENLtWITHDOTABOVE+aBELOWxFLOURISHxHOOKxLINEBELOWxSTROKExTOPBARsCtHItLOSEDINSULARGtONtUATRILLO+bWITHCOMMAtW",
    "ITHACUTExBARxCARONyEDILLA+eANDACUTEyIRCUMFLEXxDOTABOVExHOOKxPALATALHOOKxSTROKEsDtWITHCARONyEDILLAyIRCUMFLEXBEL",
    "OWxDOTABOVE+aBELOWxHOOKxLINEBELOWxSHORTSTROKEOVERLAYyMALLLETTERZ+jWITHCARONyTROKExTOPBARtZuWITHCARONsEtGYPTOLO",
    "GICALAIN+gLEFtNGtSHtTuHtWITHACUTExBREVExCARONyEDILLA+eANDBREVEyIRCUMFLEX+hANDACUTE+kDOTBELOW+kGRAVE+kHOOKABOVE",
    "+kTILDE+hBELOWxDIAERESISyOTABOVE+aBELOWzUBLEGRAVExGRAVExHOOKABOVExINVERTEDBREVExMACRON+dANDACUTE+gGRAVExOGONEK",
    "xSTROKExTILDE+cBELOWtZHvREVERSEDvWITHCARONsFtWITHDOTABOVExHOOKxSTROKEsGtAMMAtHAtLOTTALAzIzSTOPzUtWITHACUTExBRE",
    "VExCARONyEDILLAyIRCUMFLEXxDOTABOVExHOOKxMACRONxOBLIQUESTROKExSTROKEsHtALFHtENGtWAIRuITHBREVEBELOWxCARONyEDILLA",
    "yIRCUMFLEXxDESCENDERyIAERESISyOTABOVE+aBELOWxHOOKxSTROKEsItNSULARDzFzGzRzSzTtOTAtStWITHACUTExBREVExCARONyIRCUM",
    "FLEXxDIAERESIS+gANDACUTEyOTABOVE+aBELOWzUBLEGRAVExGRAVExHOOKABOVExINVERTEDBREVExMACRONxOGONEKxSTROKExTILDE+cBE",
    "LOWsJtWITHCIRCUMFLEXyROSSEDTAILxSTROKEsKtWITHACUTExCARONyEDILLAxDESCENDERyIAGONALSTROKEyOTBELOWxHOOKxLINEBELOW",
    "xOBLIQUESTROKExSTROKE+dANDDIAGONALSTROKEsLtJtWITHACUTExBARyELTxCARONyEDILLAyIRCUMFLEXBELOWxDOTBELOW+fANDMACRON",
    "zUBLEBARxHIGHSTROKExLINEBELOWxMIDDLEDOT+dTILDExSMALLLETTERJyTROKEsMtIDDLESCOTSSyWELSHLL+dVtWITHACUTExDOTABOVE+",
    "aBELOWxHOOKsNtJtWITHACUTExCARONyEDILLAyIRCUMFLEXBELOWxDESCENDERyOTABOVE+aBELOWxGRAVExLEFTHOOKyINEBELOWyONGRIGH",
    "TLEGxOBLIQUESTROKExSMALLLETTERJxTILDEsOtItLDPOLISHOtMEGAtOtPENEwOtUtWITHACUTExBREVExCARONyIRCUMFLEX+hANDACUTE+",
    "kDOTBELOW+kGRAVE+kHOOKABOVE+kTILDExDIAERESIS+gANDMACRONyOTABOVE+fANDMACRON+aBELOWzUBLEACUTE+dGRAVExGRAVExHOOKA",
    "BOVEzRN+bANDACUTE+eDOTBELOW+eGRAVE+eHOOKABOVE+eTILDExINVERTEDBREVExLONGSTROKEOVERLAYzOPxMACRON+dANDACUTE+gGRAV",
    "EyIDDLETILDExOGONEK+dANDMACRONxSTROKE+dANDACUTExTILDE+cANDACUTE+fDIAERESIS+fMACRONsPtWITHACUTExDOTABOVExFLOURI",
    "SHxHOOKxSQUIRRELTAILyTROKE+dTHROUGHDESCENDERsQtWITHDIAGONALSTROKExSTROKETHROUGHDESCENDERsRtEVERSEDCWITHDOT+aE+",
    "aHALFH+aOPENEtROTUNDAtUMROTUNDAtWITHACUTExCARONyEDILLAxDOTABOVE+aBELOW+fANDMACRONzUBLEGRAVExINVERTEDBREVExLINE",
    "BELOWxOBLIQUESTROKExSTROKExTAILsStALTILLOtCHWAuRIPTGtHARPStIGMOIDStMALLCAPITALIxQWITHHOOKTAILtWITHACUTE+cANDDO",
    "TABOVExCARON+cANDDOTABOVEyEDILLAyIRCUMFLEXyOMMABELOWxDOTABOVE+aBELOW+fANDDOTABOVExHOOKxOBLIQUESTROKExSHORTSTRO",
    "KEOVERLAYyWASHTAILsTtHORNxWITHSTROKE+hTHROUGHDESCENDERtONEFIVEwSIXwTWOtRESILLOtURNEDAzLPHAyHyINSULARGyKyLyMyTy",
    "VtWITHCARONyEDILLAyIRCUMFLEXBELOWyOMMABELOWxDIAGONALSTROKEyOTABOVE+aBELOWxHOOKxLINEBELOWxRETROFLEXHOOKxSTROKEt",
    "ZsUtBARtPSILONtWITHACUTExBREVExCARONyIRCUMFLEX+hBELOWxDIAERESIS+gANDACUTE+jCARON+jGRAVE+jMACRON+gBELOWyOTBELOW",
    "zUBLEACUTE+dGRAVExGRAVExHOOKABOVEzRN+bANDACUTE+eDOTBELOW+eGRAVE+eHOOKABOVE+eTILDExINVERTEDBREVExMACRON+dANDDIA",
    "ERESISxOGONEKxRINGABOVExSTROKExTILDE+cANDACUTE+cBELOWsVtENDtISIGOTHICZtOLAPUKAEzOEzUEtWITHDIAGONALSTROKEyOTBEL",
    "OWxHOOKxTILDEtYsWtWITHACUTExCIRCUMFLEXxDIAERESISyOTABOVE+aBELOWxGRAVExHOOKtYNNsXtWITHDIAERESISyOTABOVEsYtOGHtW",
    "ITHACUTExCIRCUMFLEXxDIAERESISyOTABOVE+aBELOWxGRAVExHOOK+bABOVExLOOPxMACRONxSTROKExTILDEsZtWITHACUTExCARONyIRCU",
    "MFLEXxDESCENDERyOTABOVE+aBELOWxHOOKxLINEBELOWxPALATALHOOKxSTROKEyWASHTAILnIGATUREIJuOEgROSSfEPIGRAPHICLETTERAR",
    "CHAICMvILONGAwNVERTEDMvREVERSEDF+dPvSIDEWAYSIfLETTERAINmLVEOLARCLICKlBIDENTALPERCUSSIVEnLABIALCLICKtPERCUSSIVE",
    "lDENTALCLICKlGLOTTALSTOPwWITHSTROKElINVERTEDGLOTTALSTOP+eWITHCURL+iSTROKElLATERALCLICKlPHARYNGEALVOICEDFRICATI",
    "VElRETROFLEXCLICKzWITHRETROFLEXHOOKnVERSEDESHLOOPtGLOTTALSTOPWITHSTROKElSINOLOGICALDOTmMALLCAPITALAyExByARREDB",
    "xCxDxEyTHyZHxFxGyWITHHOOKxHxIyNVERTEDRxJxKxLyWITHBELT+cSTROKExMxNxOyEyPENOyUxPxQxRyEVERSEDN+fRyUMyWITHRIGHTLEG",
    "xSxTyURNEDE+dG+dK+dM+dRxUxVxWxYxZmTRETCHEDCvWITHCURLlTWOWITHSTROKElVOICEDLARYNGEALSPIRANTlWYNNlYRfSMALLCAPITAL",
    "LETTERIWITHSTROKExUWITHSTROKEkLETTERArArEsWITHACUTEwMACRONrLPHAvWITHRETROFLEXHOOKrNGLICANAWrOrREVERSEDSCHWArUr",
    "VsWITHHORIZONTALBARrWITHACUTEvBREVE+aANDACUTE+dDOTBELOW+dGRAVE+dHOOKABOVE+dTILDEvCARONwIRCUMFLEX+fANDACUTE+iDO",
    "TBELOW+iGRAVE+iHOOKABOVE+iTILDEvDIAERESIS+eANDMACRONwOTABOVE+dANDMACRONyBELOWxUBLEGRAVEvGRAVEvHOOKABOVEvINVERT",
    "EDBREVEvMACRONvOGONEKvRETROFLEXHOOKwIGHTHALFRINGxNGABOVE+eANDACUTEzBELOWvSTROKEvTILDErYqBrARREDALPHAwEwOsSELIN",
    "EESHrETArLACKLETTERE+bO+cWITHSTROKErOTTOMHALFOrROKENLrWITHDOTABOVEyBELOWvFLOURISHvHOOKvLINEBELOWvMIDDLETILDEvP",
    "ALATALHOOKvSTROKEvTOPBARqCrHItWITHLOWLEFTSERIF+aRIGHTRINGrLOSEDINSULARGwOMEGAxPENEwREVERSEDOPENErONrUATRILLOzW",
    "ITHCOMMArWITHACUTEvBARvCARONwEDILLA+cANDACUTEwIRCUMFLEXwURLvDOTABOVEvHOOKvPALATALHOOKvRETROFLEXHOOKvSTROKEqDrB",
    "DIGRAPHrELTAsZHDIGRAPH+bWITHPALATALHOOK+fRETROFLEXHOOKrOTLESSIxJyWITHSTROKE+iANDHOOKsUBLERxWITHCROSSEDTAILwTHO",
    "RNwWYNNrUMrWITHCARONwEDILLAwIRCUMFLEXBELOWwURLvDOTABOVEyBELOWvHOOKzANDTAILvLINEBELOWvMIDDLETILDEyHEIGHTLEFTHOO",
    "KvPALATALHOOKvSHORTSTROKEOVERLAYwTROKEvTAILwOPBARrZsDIGRAPHzWITHCURL+dRETROFLEXHOOKsWITHCARONqErGYPTOLOGICALAI",
    "N+eLEFrNGtWITHCROSSEDTAILxPALATALHOOKrSHtWITHCURLxDOUBLEBAR+gANDCURLxPALATALHOOKxRETROFLEXHOOKrTsHrWITHACUTEvB",
    "REVEvCARONwEDILLA+cANDBREVEwIRCUMFLEX+fANDACUTE+iDOTBELOW+iGRAVE+iHOOKABOVE+iTILDE+fBELOWvDIAERESISwOTABOVEyBE",
    "LOWxUBLEGRAVEvFLOURISHvGRAVEvHOOKABOVEvINVERTEDBREVEvMACRON+bANDACUTE+eGRAVEvNOTCHvOGONEKvRETROFLEXHOOKvSTROKE",
    "vTILDE+aBELOWrZHtREVERSEDtWITHCARONyURLxPALATALHOOKxRETROFLEXHOOKxTAILqFrENGDIGRAPH+bWITHTRILLrWITHDOTABOVEvHO",
    "OKvMIDDLETILDEvPALATALHOOKvSTROKEqGrAMMArHArLOTTALAxIxSTOPxUrWITHACUTEvBREVEvCARONwEDILLAwIRCUMFLEXvDOTABOVEvH",
    "OOKvMACRONvOBLIQUESTROKEvPALATALHOOKvSTROKEqHrALFHrENGuWITHHOOKrVrWITHBREVEBELOWvCARONwEDILLAwIRCUMFLEXvDESCEN",
    "DERwIAERESISwOTABOVEyBELOWvHOOKvLINEBELOWvPALATALHOOKvSTROKEqIrNSULARDxFxGxRxSxTsVERTEDALPHAyOErOTAuWITHSTROKE",
    "tIFIEDErSrWITHACUTEvBREVEvCARONwIRCUMFLEXvDIAERESIS+eANDACUTEwOTBELOWxUBLEGRAVEvGRAVEvHOOKABOVEvINVERTEDBREVEv",
    "MACRONvOGONEKvRETROFLEXHOOKvSTROKE+bANDRETROFLEXHOOKvTILDE+aBELOWqJrWITHCARONwIRCUMFLEXwROSSEDTAILvSTROKEqKrRA",
    "rWITHACUTEvCARONwEDILLAvDESCENDERwIAGONALSTROKEwOTBELOWvHOOKvLINEBELOWvOBLIQUESTROKEvPALATALHOOKvSTROKE+bANDDI",
    "AGONALSTROKEqLrAMBDAWITHSTROKErENISFsZHuWITHRETROFLEXHOOKrJrONGSvWITHDIAGONALSTROKE+aOTABOVEzHIGHSTROKErSDIGRA",
    "PHrUMrWITHACUTEvBARwELTzANDPALATALHOOKvCARONwEDILLAwIRCUMFLEXBELOWwURLvDOTBELOW+dANDMACRONxUBLEBAR+bMIDDLETILD",
    "EvFISHHOOKvHIGHSTROKEvINVERTEDLAZYSvLINEBELOWvMIDDLEDOT+bRING+bTILDEyHEIGHTLEFTHOOKvPALATALHOOKvRETROFLEXHOOK+",
    "iANDBELTvSTROKErZDIGRAPHqMrIDDLESCOTSSwWELSHLL+bVrUMrWITHACUTEvCROSSEDTAILvDOTABOVEyBELOWvHOOKvMIDDLETILDEvPAL",
    "ATALHOOKqNrJrPRECEDEDBYAPOSTROPHErUMrWITHACUTEvCARONwEDILLAwIRCUMFLEXBELOWwROSSEDTAILwURLvDESCENDERwOTABOVEyBE",
    "LOWvGRAVEvLEFTHOOKwINEBELOWwONGRIGHTLEGvMIDDLETILDEyHEIGHTLEFTHOOKvOBLIQUESTROKEvPALATALHOOKvRETROFLEXHOOKvTIL",
    "DEqOrIrLDPOLISHOrMEGArOrPENEvWITHRETROFLEXHOOKuOvEvWITHRETROFLEXHOOKzSTROKErUrWITHACUTEvBREVEvCARONwIRCUMFLEX+",
    "fANDACUTE+iDOTBELOW+iGRAVE+iHOOKABOVE+iTILDEvDIAERESIS+eANDMACRONwOTABOVE+dANDMACRONyBELOWxUBLEACUTE+bGRAVEvGR",
    "AVEvHOOKABOVExRNzANDACUTE+cDOTBELOW+cGRAVE+cHOOKABOVE+cTILDEvINVERTEDBREVEvLONGSTROKEOVERLAYxOPxWRINGINSIDEvMA",
    "CRON+bANDACUTE+eGRAVEvOGONEK+bANDMACRONvRETROFLEXHOOKvSTROKE+bANDACUTEvTILDE+aANDACUTE+dDIAERESIS+dMACRONqPrHI",
    "rWITHACUTEvDOTABOVEvFLOURISHvHOOKvMIDDLETILDEvPALATALHOOKvSQUIRRELTAILwTROKE+bTHROUGHDESCENDERqQrPDIGRAPHrWITH",
    "DIAGONALSTROKEvHOOKzTAILvSTROKETHROUGHDESCENDERqRrAMSHORNrEVERSEDCzWITHDOTyEzNGyHALFHyKyOPENE+dWITHHOOK+hRETRO",
    "FLEXHOOKyRWITHFISHHOOKySCRIPTGrROTUNDArUMtROTUNDArWITHACUTEvCARONwEDILLAwROSSEDTAILvDOTABOVEyBELOW+dANDMACRONx",
    "UBLEGRAVEvFISHHOOK+dANDMIDDLETILDE+gPALATALHOOKvINVERTEDBREVEvLINEBELOWwONGLEGvMIDDLETILDEyHEIGHTLEFTHOOKvOBLI",
    "QUESTROKEwUTHANDLEvPALATALHOOKvSTROKEvTAILqSrAKHAYATsLTILLOrCHWAvWITHHOOKzRETROFLEXHOOKsRIPTGxWITHCROSSEDTAILw",
    "RxWITHRINGrHARPSrIDEWAYSDIAERESIZEDUyOzPENOzWITHSTROKEyTURNEDMyUsGMOIDSrQUATREVERSEDESHrTIRRUPRrWITHACUTE+aAND",
    "DOTABOVEvCARON+aANDDOTABOVEwEDILLAwIRCUMFLEXwOMMABELOWwURLvDOTABOVEyBELOW+dANDDOTABOVEvHOOKvMIDDLETILDEyHEIGHT",
    "LEFTHOOKvOBLIQUESTROKEvPALATALHOOKvSHORTSTROKEOVERLAYwWASHTAILqTrAILLESSPHIrCDIGRAPHWITHCURLrESHDIGRAPH+bWITHP",
    "ALATALHOOK+fRETROFLEXHOOKrHORNvWITHSTROKE+fTHROUGHDESCENDERsWITHSTRIKETHROUGHrONEFIVEuSIXuTWOsPHALFOrRESILLOrS",
    "DIGRAPHzWITHRETROFLEXHOOKrUMsRNEDAxExLPHAwDELTAwEwGwHxWITHFISHHOOK+jANDTAILwIxNSULARGwKwLwMxWITHLONGLEGwOEyWIT",
    "HHORIZONTALSTROKE+cSTROKExOPENO+cWITHSTROKExPENEwRxWITHHOOK+bLONGLEG+iANDRETROFLEXHOOK+bMIDDLETILDE+bPALATALHO",
    "OK+bTAILwTxWITHCURLwUIwVwWwYxWITHBELTrWITHCARONwEDILLAwIRCUMFLEXBELOWwOMMABELOWwURLvDIAERESISyGONALSTROKEwOTAB",
    "OVEyBELOWvHOOKzANDRETROFLEXHOOKvLINEBELOWvMIDDLETILDEyHEIGHTLEFTHOOKvPALATALHOOKvRETROFLEXHOOKvSTROKErZqUrBARu",
    "WITHSHORTRIGHTLEGrErIrMrOrPSILONxWITHSTROKErWITHACUTEvBREVEvCARONwIRCUMFLEX+fBELOWvDIAERESIS+eANDACUTE+hCARON+",
    "hGRAVE+hMACRON+eBELOWwOTBELOWxUBLEACUTE+bGRAVEvGRAVEvHOOKABOVExRNzANDACUTE+cDOTBELOW+cGRAVE+cHOOKABOVE+cTILDEv",
    "INVERTEDBREVEvLEFTHOOKvMACRON+bANDDIAERESISvOGONEKvRETROFLEXHOOKwINGABOVEvSHORTRIGHTLEGwTROKEvTILDE+aANDACUTE+",
    "aBELOWqVrENDrISIGOTHICZrOLAPUKAExOExUErWITHCURLvDIAGONALSTROKEwOTBELOWvHOOKvPALATALHOOKvRIGHTHOOKvTILDErYqWrWI",
    "THACUTEvCIRCUMFLEXvDIAERESISwOTABOVEyBELOWvGRAVEvHOOKvRINGABOVEqXrWITHDIAERESISwOTABOVEvLONGLEFTLEG+gANDLOWRIG",
    "HTRING+gWITHSERIFxWRIGHTRINGvPALATALHOOKqYrOGHrWITHACUTEvCIRCUMFLEXvDIAERESISwOTABOVEyBELOWvGRAVEvHOOKzABOVEvL",
    "OOPvMACRONvRINGABOVEvSHORTRIGHTLEGwTROKEvTILDEqZrWITHACUTEvCARONwIRCUMFLEXwURLvDESCENDERwOTABOVEyBELOWvHOOKvLI",
    "NEBELOWvMIDDLETILDEvPALATALHOOKvRETROFLEXHOOKvSTROKEwWASHTAILlIGATUREFFuIuLtItLsIJsLONGSTsOEsSTgUBSCRIPTSMALLL",
    "ETTERAzEzHzIzJzKzLzMzNzOzPzRzS+aCHWAzTzUzVzXbBBARSYMBOLbEAFFLUTTERINGINWINDeYGREENcDGERcFTANDLOWERANDRIGHTTRIA",
    "NGULARTHREEQUARTERSBLOCKmONEEIGHTHBLOCKhRIGHTDOUBLETURNSTILEmTACKnRIANGULARHALFBLOCKhUPPERANDRIGHTTRIANGULARTH",
    "REEQUARTERSBLOCKmONEEIGHTHBLOCKgGERBUBBLEhLEBRACKETqWITHDOTfRCLESSTHANBRACKETgROWWITHCIRCLEDPLUSnSMALLCIRCLEeB",
    "ARBDOWNRIGHTBARBDOWNHARPOONvUPHARPOONiUPRIGHTBARBDOWNHARPOONtUPHARPOONfLACKLENTICULARBRACKETjTORTOISESHELLBRAC",
    "KETeCEILINGfLOSEDENTRYfORNERBRACKETfURLYBRACKETqLOWERHOOKqMIDDLEPIECEqUPPERHOOKeDOTTEDSUBSTITUTIONBRACKETgUBLE",
    "ANGLEBRACKETkPARENTHESISkQUOTATIONMARKkWIGGLYFENCEeFACINGARMENIANETERNITYSIGNkFISTkSVASTISIGNuWITHDOTSfISHTAIL",
    "gVEEIGHTHSBLOCKfLOOReHALFBLACKCIRCLEnSTARkOCKiCIRCLEoWITHDOTsFOURDOTSsTHREEDOTStWODOTSiFOLDERiINVERSEMEDIUMSHA",
    "DEANDRIGHTHALFBLOCKiMEDIUMSHADEiRUNNINGMANgNDEDINTERLACEDPENTAGRAMiTELEPHONERECEIVEReLOWPARAPHRASEBRACKETfUGGA",
    "GEeMULTIMAPeNORMALFACTORSEMIDIRECTPRODUCTeONEEIGHTHBLOCKhQUARTERBLOCKfUTERJOINePARENTHESISpEXTENSIONpLOWERHOOK",
    "pUPPERHOOKfOINTINGANGLEBRACKETmCURVEDANGLEBRACKETmDOUBLEANGLEQUOTATIONMARKmMAGNIFYINGGLASSeRAISEDOMISSIONBRACK",
    "ETfIGHTARROWoTHROUGHSMALLCIRCLEoWITHDOUBLEVERTICALSTROKEsSTROKEsVERTICALSTROKEjBLACKARROWjDOUBLEARROWuWITHSTRO",
    "KEyVERTICALSTROKEjOPENHEADEDARROWjSANSSERIFARROWjTRIANGLEHEADEDARROWjWAVEARROWkHITEARROWeSEMIDIRECTPRODUCTgVEN",
    "EIGHTHSBLOCKfHADEDWHITERIGHTWARDSARROWfIDEARCANTICLOCKWISEARROWiWAYSUBRACKETgNGLEQUOTATIONMARKfPEECHBUBBLEfQUA",
    "REBRACKETrEXTENSIONrLOWERCORNERrUPPERCORNERrWITHDOUBLESTROKEvQUILLvSTROKEvTICKINBOTTOMCORNER+bTOPCORNERvUNDERB",
    "ARfSHAPEDBAGDELIMITERfUBSTITUTIONBRACKETeTACKfHIRDWHITERIGHTPOINTINGINDEXgOUGHTBUBBLEgREEEIGHTHSBLOCKjQUARTERS",
    "BLOCKfORIGHTEMBEDDINGlISOLATElMARKlOVERRIDEhTOISESHELLBRACKETfRANSPOSITIONBRACKETgIANGLEBESIDEVERTICALBARkULAR",
    "ONEQUARTERBLOCKeVERTICALBARWITHQUILLnOXLINEeWARDSARROWoABOVEALMOSTEQUALTOtREVERSEALMOSTEQUALTO+aTILDEOPERATORt",
    "SHORTRIGHTWARDSARROWtTILDEOPERATORpNDUPPERANDLOWERONEEIGHTHBLOCKoFROMBARvTOBLACKDIAMONDoOVERRIGHTWARDSARROWoTA",
    "ILpHROUGHLESSTHANvSUBSETvXpOBARtOVERRIGHTWARDSARROWTOBARrLACKDIAMONDoWITHDOTTEDSTEMuUBLEVERTICALSTROKEsEQUILAT",
    "ERALARROWHEADsHOOKsLARGETRIANGLEARROWHEADtOOPsMEDIUMTRIANGLEARROWHEADsNOTCHEDTAILsPLUSBELOWsSMALLEQUILATERALAR",
    "ROWHEADxTRIANGLEARROWHEADtTROKEsTAILwWITHDOUBLEVERTICALSTROKE+aVERTICALSTROKEtIPDOWNWARDSvUPWARDSsVERTICALSTRO",
    "KEjBACKTILTEDSHADOWEDWHITEARROWkLACKARROWoCIRCLEDWHITEARROWkOTTOMSHADEDWHITEARROWjCOMPRESSEDARROWjDASHEDARROWk",
    "OUBLEARROWuFROMBARuTAILuWITHSTROKEyVERTICALSTROKEpDASHARROWjFINGERPOSTARROWkRONTTILTEDSHADOWEDWHITEARROWjHANDl",
    "RPOONOVERRIGHTWARDSHARPOONqWITHBARBDOWNABOVERIGHTWARDSHARPOONWITHBARBDOWN+cBELOWLONGDASH+cFROMBAR+cTOBAR+cWARD",
    "SyUPABOVELEFTWARDSHARPOONWITHBARBDOWN+gONGDASH+fRIGHTWARDSHARPOONWITHBARBUP+aFROMBAR+aTOBAR+aWARDSkEAVYARROWoC",
    "OMPRESSEDARROWjLEFTSHADEDWHITEARROWjOPENHEADEDARROWjPAIREDARROWSkUSHINGHANDjQUADRUPLEARROWjRIGHTSHADEDWHITEARR",
    "OWkOCKETjSANSSERIFARROWkQUAREDARROWmIGGLEARROWjTOPSHADEDWHITEARROWkRIANGLEARROWHEADrHEADEDARROW+cOVERRIGHTWARD",
    "STRIANGLEHEADEDARROW+cTOBAR+cWITHBOLDSHAFT+gDOUBLEHORIZONTALSTROKE+mVERTICALSTROKE+gHEAVYSHAFT+gLONGTIPDOWNWAR",
    "DS+nUPWARDS+gMEDIUMSHAFT+gNARROWSHAFT+gVERYHEAVYSHAFTxDASHEDARROWxPAIREDARROWSmPLEARROWpDASHARROWkWOHEADEDARRO",
    "WxFROMBARxWITHDOUBLEVERTICALSTROKE+bTAIL+fWITHDOUBLEVERTICALSTROKE+jVERTICALSTROKE+cRIANGLEARROWHEADS+bVERTICA",
    "LSTROKEsTRIPLEDASHARROWjWAVEARROWkHITEARROWtWITHINTRIANGLEARROWHEADfHITECORNERBRACKETkURLYBRACKETjLENTICULARBR",
    "ACKETjPARENTHESISjSQUAREBRACKETjTORTOISESHELLBRACKETfIGGLYFENCEfRITINGHANDcGcMONcOdPARDcPCHACONSONANTSIGNKuANG",
    "tLtMtNuYINDOtPtRtTgDIGITEIGHTlFIVEmOURlNINElONElSEVENmIXlTHREEmWOlZEROgLETTERAmBAnLAmCAnHAmDAnDAnZAmFAnLAmGAnL",
    "AmHAnLAmJAmKAnHAnLAmLAmMAnLAmNAnGAnYAmPAnHAnLAmRAmSAnHAmTAnHAnSAoHAnTAoHAmVAmWAmYAgPUNCTUATIONCERWArNYETTHYOOM",
    "TAROLrTAROLsSHOOKxCERWAgSIGNNUKTAkRANhUBJOINEDLETTERRAvYAgVOWELSIGNAApEpIpOqOpUqUcSSTHANABOVEDOUBLELINEEQUALAB",
    "OVEGREATERTHANnGREATERTHANABOVEDOUBLELINEEQUALnLEFTWARDSARROWnSIMILARABOVEGREATERTHANuOREQUALoLANTEDEQUALABOVE",
    "GREATERTHANABOVESLANTEDEQUALjNDNOTAPPROXIMATElSINGLELINENOTEQUALTOiBUTNOTEQUALTOrIVALENTTOiCLOSEDBYCURVEvABOVE",
    "SLANTEDEQUALiEQUALTOORGREATERTHANiORAPPROXIMATEkEQUALTOnIVALENTTOkGREATERTHANkSLANTEDEQUALTOyWITHDOTABOVE+kRIG",
    "HT+fINSIDEjVEREQUALTOiSIGNiWITHCIRCLEINSIDEmDOTmQUESTIONMARKABOVEcVELSLIDERbFbIBRAcGATUREOPENETORNAMENTdHTBLUE",
    "HEARTfCHECKMARKfEIGHTSPOKEDASTERISKfFIVEPOINTEDBLACKSTARjSPOKEDASTERISKgOURPOINTEDBLACKCUSPvSTARfGREEKCROSSfLE",
    "FTTORTOISESHELLBRACKETORNAMENTfNINGjMOODnBUBBLEfRAILgIGHTTORTOISESHELLBRACKETORNAMENTfSALTIREgHADEgIXSPOKEDAST",
    "ERISKfTHREEPOINTEDBLACKSTARgWELVEPOINTEDBLACKSTARfVERTICALBARfWHITESQUAREcMBUDIGITEIGHTkFIVElOURkNINEkONEkSEVE",
    "NlIXkTHREElWOkZEROfEXCLAMATIONMARKfLETTERBAmHAlCAmHAlDAmHAlGAmHAmYANlHAlJAmHAlKAmHAlLAlMAlNAmGAlPAmHAlRAlSAmHA",
    "mSAlTAmHAmRAlWAlYAnNfQUESTIONMARKfSIGNKEMPHRENGjLOOjMUKPHRENGjSAIgMALLLETTERANUSVARAqKAqLAqMAqNArGAqPAqRAqTAgU",
    "BJOINEDLETTERRAuWAuYAfVOWELCARRIERLETTERkSIGNApIpUoEpEoIoOpOoUdITEDLIABILITYSIGNcNEARASIGNA028Bm100102n20Bn31C",
    "m301o2o3o4o5o6o7o8o9ApBpCn10o1o2o3ApBpCo4o5o6o7o8o9n20o1o2o3o4o5o6o7o8o9n30o1o2o3o4o5o6o7o8o9n40o1o2o3o4o5o6o7",
    "o8o9n50o1o2o3o4o5o6o7o8o9n60o1o2o3o4o5o6o7o8o9n70o1m400VASo1VASo2VASo3VASo4VASo5VASo6VASo7VASo8VASo9VASn10VASo",
    "1VASo2VASo3VASo4VASo5VASo6VASo7VASo8VASm501o2o3o4o5o6o8o9n10o1o2o3o5o6n20o1o3o4o5o6o7o8o9n30o1o2o4o5o6o7o8o9n4",
    "0o1o2o5o7o8o9n50o1o2o3o4o5o6o7o9n63o4o5o6o8o9n70o1o2o3o4o5o6o7o8o9n80o1o2o3o4o5o6o7o8o9n91o2o4o5o6o8m600o1o2o3",
    "o4o6o8o9n10o1o2o3o4o5o6o7o8o9n20o1o2o3o4o6o7o8o9n34o7o8n40o2o3o4o5o6o8o9n51o2o3o4o5o6o7o8o9n60o1o2o3o4m701Ao2B",
    "o3Do4Eo5Fo6Ho7Jo8Ko92L2p3L3p4L4p6L6pLn10Wo1Xo2Yo3OMEGAo4ABBo5BBo7DDn26EYYYn32JEm800o1o2o3o4o5o6o7mB001p2p3p4p5",
    "p6p7p8p9o10p1p3p6p7o20p1qFqMp2qFqMp3qMp4p6p7p8p9o30p1p4p7p8p9o40p1p4p5p6p7p8p9o50p1p3p4p5p6p7p8p9o60p1p5p6p7p9",
    "o70p3p4p6p7p8p9o80p1p2p5p6p7n118o20p2p3o31AqBo64o71o80p8o91gBIDEOGRAMB100MANs2WOMANs4DEERs5EQUIDtFMAREtMSTALLI",
    "ONs6FEWEtMRAMs7FSHEGOATtMHEGOATs8FSOWtMBOARs9FCOWtMBULLr20WHEATs1BARLEYs2OLIVEs3SPICEs5CYPERUSr30OILs1WINEs2r4",
    "0BRONZEs1GOLDs2s5WOOLs6r50s1HORNs2s3s4s7s8s9CLOTHr60s1s2GARMENTs3ARMOURs4s5s6s7s8s9r70s1s2s3MONTHs4s6TREEs7s8s",
    "9r80s1s2s3s4s5s9r90s1HELMETq220FOOTSTOOLs5BATHTUBr30SPEARs1ARROWs2s3SWORDs4s6r40WHEELEDCHARIOTs1CHARIOTs2CHARI",
    "OTFRAMEs3WHEELs5s6s8s9r51s2s3s4DARTs5s6s7s8s9pVESSELB155w200y1y2y3y4y5y6y7y8y9x10y1y2y3y4y5y6y7y8y9x21y2y6y7y8",
    "y9x50w305hMONOGRAMB127KAPOs8KANAKOr33AREPAs5MERIr56TURO2q247DIPTEhSYLLABLEB001DAs2ROs3PAs4TEs5TOs6NAs7DIs8As9S",
    "Er10Us1POs2SOs3MEs4DOs5MOs6QAs7ZAr20ZOs1QIs3MUs4NEs5A2s6RUs7REs8Is9PU2r30NIs1SAs2QOs3RA3s6JOs7TIs8Es9PIr40WIs1",
    "SIs2WOs3A3s4KEs5DEs6JEs8NWAr50PUs1DUs2NOs3RIs4WAs5NUs7JAs8SUs9TAr60RAs1Os2PTEs5JUs6TA2s7KIs8RO2s9TUr70KOs1DWEs",
    "2PEs3MIs4ZEs5WEs6RA2s7KAs8QEr80MAs1KUs5AUs7TWEr90DWOs1TWOjMBOLB018q9p22p34p47q9p56p63q4p79p82q3q6q9eFEEDeINTEG",
    "RATIONNOTINCLUDINGTHEPOLEpWITHRECTANGULARPATHAROUNDPOLEtSEMICIRCULARPATHAROUNDPOLEeSEPARATOReTABULATIONoSETdKE",
    "DPAPERCLIPSeSYMBOLcONFACEcPSeTICKcRASIGNcSULETTERAlEkBAkCAlHAkDAlZAkElUkFAkGAlHAkHAlHAkIkJAkKAlHAkLAkMAkNAlGAk",
    "OlEkPAlHAkSAlHAkTAlHAlONEMYABOrCYArJEUrNArTIoNAPOlSAmHAkUlElHkWAkXAkYAlHAkZAlHAePUNCTUATIONCOMMApFULLSTOPcVRET",
    "OURNOISSIGNcZARDbLAMAbOBSTERcCKeINGSHIFTONEmZEROeWITHINKPENcGICALANDkWITHDOTABOVEqUBLEOVERBARuUNDERBARoHORIZON",
    "TALDASHoMIDDLESTEMoUNDERBARhORjOVERLAPPINGLOGICALANDjWITHDOTABOVEpUBLEOVERBARtUNDERBARnHORIZONTALDASHnMIDDLEST",
    "EMcLLIPOPcNGDASHFROMLEFTMEMBEROFDOUBLEVERTICALfIVISIONfRUMeLEFTRIGHTARROWnDOUBLEARROWiTACKiWARDSARROWsFROMBARn",
    "DOUBLEARROWyFROMBARnSQUIGGLEARROWeRIGHTTACKjWARDSARROWtFROMBARoDOUBLEARROWzFROMBARoSQUIGGLEARROWcTIONBOTTLEdOF",
    "FORTUNEdUScUDLYCRYINGFACEcVEHOTELeLETTERcWASTERISKdBATTERYeRIGHTNESSSYMBOLdDOUBLEPRIMEQUOTATIONMARKdERBLADESCI",
    "SSORSfFIVEEIGHTHSBLOCKfHALFBLOCKjCIRCLEjINVERSEWHITECIRCLEjMEDIUMSHADEfLEFTBALLPOINTPENkLOCKDIAGONALLOWERMIDDL",
    "ELEFTTOLOWERCENTRE+sRIGHTwUPPERCENTRETOLOWERMIDDLERIGHT+oRIGHT+jUPPERMIDDLERIGHT+bLEFTTOLOWERCENTRE+mMIDDLERIG",
    "HT+hUPPERMIDDLERIGHT+bMIDDLELEFTTOLOWERCENTRE+sMIDDLERIGHT+sRIGHTjCRAYONjFOUNTAINPENjPAINTBRUSHkENCILjQUADRANT",
    "CIRCULARARCjSEMICIRCULARANTICLOCKWISEARROWjTRIANGLEpULARMEDIUMSHADEfONEEIGHTHBLOCKiQUARTERBLOCKfRIGHTBLOCKDIAG",
    "ONALLOWERCENTRETOLOWERMIDDLERIGHT+kUPPERMIDDLERIGHT+pRIGHT+cLEFTTOLOWERMIDDLERIGHT+iUPPERCENTRE+nMIDDLERIGHT+c",
    "MIDDLELEFTTOUPPERCENTRE+tMIDDLERIGHT+tRIGHTxUPPERMIDDLELEFTTOUPPERCENTRE+tRIGHTkCORNERWITHDOTkDROPSHADOWEDWHIT",
    "ESQUAREkPENCILkQUADRANTCIRCULARARCkSEMICIRCULARCLOCKWISEARROWlHADOWEDWHITECIRCLExSQUAREkTRIANGLEqULARMEDIUMSHA",
    "DEfSEVENEIGHTHSBLOCKfTHREEEIGHTHSBLOCKkQUARTERSBLOCKgRIANGULARONEQUARTERBLOCKdKAVYKAjWITHDOTdLINEcZENGEhDIVIDE",
    "DBYHORIZONTALRULEbREcIcMcObUGGAGEcNARECLIPSEdGSbYCIANLETTERAnNmBnHmDmEnNmGmHmImJmKnKmLmMnMmNnNmPmQmRmSmTnHnTmU",
    "mWmXmZcDIANLETTERAnNmBmCmDmEnNmFmGmImKmLnYmMmNnNmOmQmRmSnSmTnTmUmVmYgTRIANGULARMARKcINGFACE"]

/-- The names that start with M. -/
def namesM : List String :=
  ["aMACRONcGEdICWANDdNETcHAJANIABBREVIATIONSIGNiLETTERAoBApHAoCApHAoDApDAqHApHAoEoGApHAoHAoIoJApHAoKApHAoLAoMAoNA",
    "pNApYAoOoPApHAoRApRAoSAoTApHApTAqHAoUoVAjIGATURESHRIiSECTIONMARKjIGNNUKTAdJONGTILEAUTUMNlBACKnMBOOlCHRYSANTHEM",
    "UMlEASTWINDmIGHTOFBAMBOOSsCHARACTERStIRCLESlFIVEOFBAMBOOSrCHARACTERSsIRCLESmOUROFBAMBOOSrCHARACTERSsIRCLESlGRE",
    "ENDRAGONlJOKERlNINEOFBAMBOOSrCHARACTERSsIRCLESmORTHWINDlONEOFBAMBOOSqCHARACTERSrIRCLESmRCHIDlPLUMlREDDRAGONlSE",
    "VENOFBAMBOOSsCHARACTERStIRCLESmIXOFBAMBOOSqCHARACTERSrIRCLESmOUTHWINDmPRINGmUMMERlTHREEOFBAMBOOSsCHARACTERStIR",
    "CLESmWOOFBAMBOOSqCHARACTERSrIRCLESlWESTWINDmHITEDRAGONmINTERcKASARANGKAhENDOFSECTIONhLETTERAnBAnCAnDAnGAnJAnKA",
    "nLAnMAnNAoGAoYAnPAnRAnSAnTAnVAnYAhPASSIMBANGhVOWELSIGNEqIqOqUdEMAKEcLAYALAMAULENGTHMARKjDATEMARKkIGITEIGHToFIV",
    "EpOURoNINEoONEoSEVENpIXoTHREEpWOoZEROjFRACTIONONEEIGHTHuFIFTHvORTIETHuHALFuONEHUNDREDANDSIXTIETHuQUARTERuSIXTE",
    "ENTHuTENTHvWENTIETHrTHREEEIGHTIETHSwQUARTERSwSIXTEENTHSwTWENTIETHSjLETTERAqAqIqRCHAICIIqUpBAqHApCAqHArILLUKvLw",
    "LxLvMvNwNvRRvYpDAqDArHAqHAqOTREPHpEqEpGAqHApHApIqIpJAqHApKAqHApLAqLArLApMApNAqGAqNArNAqYApOqOpPAqHApRAqRApSAqH",
    "AqSApTAqHAqTArHArTApUqUpVAqEDICANUSVARAqOCALICLxLwRxRpYAjNUMBERONEHUNDREDsTHOUSANDpTENjSIGNANUSVARAoVAGRAHAnCA",
    "NDRABINDUoIRCULARVIRAMAoOMBININGANUSVARAABOVEnPARAnVERTICALBARVIRAMAoIRAMApSARGAjVOWELSIGNAAtItUsEtEsItIsOtOsU",
    "tUsVOCALICL+aLzR+aRdEANDFEMALESIGNeSIGNeWITHSTROKEANDMALEANDFEMALESIGNoSIGNdTESECROSScMMOTHcNdANDWOMANHOLDINGH",
    "ANDSeTSIGNdDAICAFFRICATIONMARKhGEMINATIONMARKhLETTERABoDoGoHoINoKpSAoLoMoNoPoQoRoSpHpZoTpToZnDUSHENNAnHALQAnIN",
    "oTnKADnUSHENNAhPUNCTUATIONhVOCALIZATIONMARKfNCINGdGOdICHAEANABBREVIATIONMARKABOVE+aBELOWkLETTERAAYINrLEPHrYINq",
    "BETHrHETHqDALETHrHAMEDHqFEqGHIMELrIMELqHEsTHqJAYINrHAYINqKAPHrHAPHqLAMEDHqMEMqNUNqPEqQHOPHrOPHqRESHqSADHEsMEKH",
    "rHINrSHINqTAWrETHrHAMEDHqWAWqXAPHrOPHqYODHqZAYINrHAYINkNUMBERFIVEqONEtHUNDREDqTENrWENTYkPUNCTUATIONDOTyWITHIND",
    "OTxUBLEDOTWITHINDOTvFLEURONvLINEFILLERvSTARvTWODOTSkSIGNUDeNBUSINESSSUITLEVITATINGfTUXEDOdSSHOEdTELPIECECLOCKd",
    "UALWHEELCHAIRdWITHGUAPIMAOhTURBANcPLELEAFdSYMBOLFORLIGHTHOUSEcRACASdCHENHEADMARKhLETTER-AnAnBAnCAoHAnDAoZAnGAn",
    "HAnJAnKAoHAnLAnMAnNAoGAoYAnPAoHAnRAnSAoHAnTAoHAoSApHAnWAnYAnZAoHAhMARKSHADhSIGNANUSVARAlCANDRABINDUiUBJOINEDLE",
    "TTERAwBAwCAxHAwDAxZAwGAwHAwJAwKAxHAwLAwMAwNAxGAxYAwPAxHAwRAwSAxHAwTAxHAxSAyHAwWAwYAwZAxHAhVOWELSIGNAAqEqIqOqUd",
    "RIAGESYMBOLdTIALARTSUNIFORMcSARAMGONDIDIGITEIGHTrFIVEsOURrNINErONErSEVENsIXrTHREEsWOrZEROmLETTERAtAtItUsBAtHAs",
    "CAtHAsDAtDAuHAtHAsEsGAtHAsHAsItIsJAtHAtNYAsKAtHAtSSAsLAtLAsMAsNAtGAtNAtYAsOsPAtHAsRAsSAtHAtSAsTAtHAtRAtTAuHAsU",
    "tUsVAsYAmRAKARAnEPHAmSIGNANUSVARAqCANDRAqHALANTAqNUKTAqVISARGAmVIRAMAnOWELSIGNAAwIwUvEvIwIvOvUwUvVOCALICRdCULI",
    "NEORDINALINDICATORdKWORKSYMBOLdUMARKcTEDRINKdHEMATICALBOLDCAPITALAyLPHAxByETAxCyHIxDyELTAyIGAMMAxEyPSILONyTAxF",
    "xGyAMMAxHxIyOTAxJxKyAPPAxLyAMDAxMyUxNyUxOyMEGAzICRONxPyHIyIySIxQxRyHOxSyIGMAxTyAUyHETA+cSYMBOLxUyPSILONxVxWxXy",
    "IxYxZyETAqDIGITEIGHTvFIVEwOURvNINEvONEvSEVENwIXvTHREEwWOvZEROqEPSILONSYMBOLqFRAKTURCAPITALA+eB+eC+eD+eE+eF+eG+",
    "eH+eI+eJ+eK+eL+eM+eN+eO+eP+eQ+eR+eS+eT+eU+eV+eW+eX+eY+eZxSMALLA+cB+cC+cD+cE+cF+cG+cH+cI+cJ+cK+cL+cM+cN+cO+cP+c",
    "Q+cR+cS+cT+cU+cV+cW+cX+cY+cZqITALICCAPITALA+eLPHA+dB+eETA+dC+eHI+dD+eELTA+dE+ePSILON+eTA+dF+dG+eAMMA+dH+dI+eOT",
    "A+dJ+dK+eAPPA+dL+eAMDA+dM+eU+dN+eU+dO+eMEGA+fICRON+dP+eHI+eI+eSI+dQ+dR+eHO+dS+eIGMA+dT+eAU+eHETA+iSYMBOL+dU+eP",
    "SILON+dV+dW+dX+eI+dY+dZ+eETAwEPSILONSYMBOLwKAPPASYMBOLwNABLAwPARTIALDIFFERENTIALxHISYMBOLxISYMBOLwRHOSYMBOLwSM",
    "ALLA+cLPHA+bB+cETA+bC+cHI+bD+cELTA+bE+cPSILON+cTA+bF+cINALSIGMA+bG+cAMMA+bH+bI+cOTA+bJ+bK+cAPPA+bL+cAMDA+bM+cU",
    "+bN+cU+bO+cMEGA+dICRON+bP+cHI+cI+cSI+bQ+bR+cHO+bS+cIGMA+bT+cAU+cHETA+bU+cPSILON+bV+bW+bX+cI+bY+bZ+cETAwTHETASY",
    "MBOLqKAPPASYMBOLqNABLAqPARTIALDIFFERENTIALrHISYMBOLrISYMBOLqRHOSYMBOLqSCRIPTCAPITALA+dB+dC+dD+dE+dF+dG+dH+dI+d",
    "J+dK+dL+dM+dN+dO+dP+dQ+dR+dS+dT+dU+dV+dW+dX+dY+dZwSMALLA+bB+bC+bD+bE+bF+bG+bH+bI+bJ+bK+bL+bM+bN+bO+bP+bQ+bR+bS",
    "+bT+bU+bV+bW+bX+bY+bZrMALLAwLPHAvBwETAvCwHIvDwELTAwIGAMMAvEwPSILONwTAvFwINALSIGMAvGwAMMAvHvIwOTAvJvKwAPPAvLwAM",
    "DAvMwUvNwUvOwMEGAxICRONvPwHIwIwSIvQvRwHOvSwIGMAvTwAUwHETAvUwPSILONvVvWvXwIvYvZwETAqTHETASYMBOLmDOUBLESTRUCKCAP",
    "ITALA+fB+fD+fE+fF+fG+fI+fJ+fK+fL+fM+fO+fS+fT+fU+fV+fW+fX+fYyDIGITEIGHT+dFIVE+eOUR+dNINE+dONE+dSEVEN+eIX+dTHREE",
    "+eWO+dZEROySMALLA+dB+dC+dD+dE+dF+dG+dH+dI+dJ+dK+dL+dM+dN+dO+dP+dQ+dR+dS+dT+dU+dV+dW+dX+dY+dZmFALLINGDIAGONALnR",
    "AKTURCAPITALA+aB+aD+aE+aF+aG+aJ+aK+aL+aM+aN+aO+aP+aQ+aS+aT+aU+aV+aW+aX+aYtSMALLAyByCyDyEyFyGyHyIyJyKyLyMyNyOyP",
    "yQyRySyTyUyVyWyXyYyZmITALICCAPITALA+aLPHAzB+aETAzC+aHIzD+aELTAzE+aPSILON+aTAzFzG+aAMMAzHzI+aOTAzJzK+aAPPAzL+aA",
    "MDAzM+aUzN+aUzO+aMEGA+bICRONzP+aHI+aI+aSIzQzR+aHOzS+aIGMAzT+aAU+aHETA+eSYMBOLzU+aPSILONzVzWzX+aIzYzZ+aETAsEPSI",
    "LONSYMBOLsKAPPASYMBOLsNABLAsPARTIALDIFFERENTIALtHISYMBOLtISYMBOLsRHOSYMBOLsSMALLAyLPHAxByETAxCyHIxDyELTAyOTLES",
    "SI+eJxEyPSILONyTAxFyINALSIGMAxGyAMMAxIyOTAxJxKyAPPAxLyAMDAxMyUxNyUxOyMEGAzICRONxPyHIyIySIxQxRyHOxSyIGMAxTyAUyH",
    "ETAxUyPSILONxVxWxXyIxYxZyETAsTHETASYMBOLmLEFTANGLEBRACKETqDOUBLEANGLEBRACKETqFLATTENEDPARENTHESISqWHITESQUAREB",
    "RACKETvTORTOISESHELLBRACKETmMONOSPACECAPITALA+cB+cC+cD+cE+cF+cG+cH+cI+cJ+cK+cL+cM+cN+cO+cP+cQ+cR+cS+cT+cU+cV+c",
    "W+cX+cY+cZvDIGITEIGHT+aFIVE+bOUR+aNINE+aONE+aSEVEN+bIX+aTHREE+bWO+aZEROvSMALLA+aB+aC+aD+aE+aF+aG+aH+aI+aJ+aK+a",
    "L+aM+aN+aO+aP+aQ+aR+aS+aT+aU+aV+aW+aX+aY+aZmRIGHTANGLEBRACKETrDOUBLEANGLEBRACKETrFLATTENEDPARENTHESISrWHITESQU",
    "AREBRACKETwTORTOISESHELLBRACKEToSINGDIAGONALmSANSSERIFBOLDCAPITALA+hLPHA+gB+hETA+gC+hHI+gD+hELTA+gE+hPSILON+hT",
    "A+gF+gG+hAMMA+gH+gI+hOTA+gJ+gK+hAPPA+gL+hAMDA+gM+hU+gN+hU+gO+hMEGA+iICRON+gP+hHI+hI+hSI+gQ+gR+hHO+gS+hIGMA+gT+",
    "hAU+hHETA+lSYMBOL+gU+hPSILON+gV+gW+gX+hI+gY+gZ+hETAzDIGITEIGHT+eFIVE+fOUR+eNINE+eONE+eSEVEN+fIX+eTHREE+fWO+eZE",
    "ROzEPSILONSYMBOLzITALICCAPITALA+nLPHA+mB+nETA+mC+nHI+mD+nELTA+mE+nPSILON+nTA+mF+mG+nAMMA+mH+mI+nOTA+mJ+mK+nAPP",
    "A+mL+nAMDA+mM+nU+mN+nU+mO+nMEGA+oICRON+mP+nHI+nI+nSI+mQ+mR+nHO+mS+nIGMA+mT+nAU+nHETA+rSYMBOL+mU+nPSILON+mV+mW+",
    "mX+nI+mY+mZ+nETA+fEPSILONSYMBOL+fKAPPASYMBOL+fNABLA+fPARTIALDIFFERENTIAL+gHISYMBOL+gISYMBOL+fRHOSYMBOL+fSMALLA",
    "+lLPHA+kB+lETA+kC+lHI+kD+lELTA+kE+lPSILON+lTA+kF+lINALSIGMA+kG+lAMMA+kH+kI+lOTA+kJ+kK+lAPPA+kL+lAMDA+kM+lU+kN+",
    "lU+kO+lMEGA+mICRON+kP+lHI+lI+lSI+kQ+kR+lHO+kS+lIGMA+kT+lAU+lHETA+kU+lPSILON+kV+kW+kX+lI+kY+kZ+lETA+fTHETASYMBO",
    "LzKAPPASYMBOLzNABLAzPARTIALDIFFERENTIAL+aHISYMBOL+aISYMBOLzRHOSYMBOLzSMALLA+fLPHA+eB+fETA+eC+fHI+eD+fELTA+eE+f",
    "PSILON+fTA+eF+fINALSIGMA+eG+fAMMA+eH+eI+fOTA+eJ+eK+fAPPA+eL+fAMDA+eM+fU+eN+fU+eO+fMEGA+gICRON+eP+fHI+fI+fSI+eQ",
    "+eR+fHO+eS+fIGMA+eT+fAU+fHETA+eU+fPSILON+eV+eW+eX+fI+eY+eZ+fETAzTHETASYMBOLvCAPITALA+cB+cC+cD+cE+cF+cG+cH+cI+c",
    "J+cK+cL+cM+cN+cO+cP+cQ+cR+cS+cT+cU+cV+cW+cX+cY+cZvDIGITEIGHT+aFIVE+bOUR+aNINE+aONE+aSEVEN+bIX+aTHREE+bWO+aZERO",
    "vITALICCAPITALA+iB+iC+iD+iE+iF+iG+iH+iI+iJ+iK+iL+iM+iN+iO+iP+iQ+iR+iS+iT+iU+iV+iW+iX+iY+iZ+bSMALLA+gB+gC+gD+gE",
    "+gF+gG+gH+gI+gJ+gK+gL+gM+gN+gO+gP+gQ+gR+gS+gT+gU+gV+gW+gX+gY+gZvSMALLA+aB+aC+aD+aE+aF+aG+aH+aI+aJ+aK+aL+aM+aN+",
    "aO+aP+aQ+aR+aS+aT+aU+aV+aW+aX+aY+aZnCRIPTCAPITALAzCzDzGzJzKzNzOzPzQzSzTzUzVzWzXzYzZsSMALLAxBxCxDxFxHxIxJxKxLxM",
    "xNxPxQxRxSxTxUxVxWxXxYxZcXIMIZEcYANNUMERALEIGHTrEENnLEVENmFIFTEENoVEnOURqTEENmNINEqTEENmONEmSEVENrTEENnIXpTEEN",
    "mTENnHIRTEENoREEnWELVEoOmZERObEASUREDANGLEnOPENINGLEFTnWITHOPENARMENDINGINARROWPOINTINGDOWNANDLEFT++aRIGHT+tLE",
    "FTANDDOWN++aUP+tRIGHTANDDOWN++bUP+tUPANDLEFT+yRIGHTiBYiRIGHTANGLEWITHDOTdTONBONEcCHANICALARMkLEGcDEFAIDRINCAPI",
    "TALLETTERAzIzTIUyByCyDyEyFyGyHzPyIyJyKzPyLyMyNzGzYyOzEyPyQyRySyTyUyVyWyXyYzUyZmOMMAlDIGITEIGHTqFIVErOURqNINEqO",
    "NEtALTERNATEFORMqSEVENrIXqTHREEvALTERNATEFORMrWOtALTERNATEFORMqZEROlEXCLAMATIONOHlFULLSTOPlNUMBEREIGHTEENsLEVE",
    "NrFIFTEENsOURTEENrNINETEENrSEVENTEENsIXTEENrTENsHIRTEENsWELVElSMALLLETTERAxIxTIUwBwCwDwEwFwGwHxPwIwJwKxPwLwMwN",
    "xGxYwOxEwPwQwRwSwTwUwVwWwXwYxUwZmYMBOLAIVAdIEVALCOMMAiEXCLAMATIONMARKiQUESTIONMARKeUMBLACKCIRCLEhOLDWHITECIRCL",
    "EgEIGHTPOINTEDBLACKSTARlSPOKEDASTERISKgFIVESPOKEDASTERISKhLATTENEDLEFTPARENTHESISORNAMENTpRIGHTPARENTHESISORNA",
    "MENThOURPOINTEDBLACKSTARrPINWHEELSTARgGREEKCROSSgLEFTCURLYBRACKETORNAMENTkPARENTHESISORNAMENTlOINTINGANGLEBRAC",
    "KETORNAMENTgMATHEMATICALSPACEgRIGHTCURLYBRACKETORNAMENTlPARENTHESISORNAMENTmOINTINGANGLEBRACKETORNAMENTgSALTIR",
    "EhHADEhIXPOINTEDBLACKSTARjSPOKEDASTERISKhMALLWHITECIRCLEgTHREEPOINTEDBLACKSTARsPINWHEELSTARgVERTICALBARgWHITEC",
    "IRCLElSQUAREcETEIMAYEKAHANGKHUDAMmNJImPUNIYEKlCHEIKHANrEIlDIGITEIGHTqFIVErOURqNINEqONEqSEVENrIXqTHREErWOqZEROl",
    "LETTERATIYArBAsHAMrCHAtILrDDAtHAsHOUsILrErGHOUsOKrHUKrIsLONSUMrJHAMsILrKHOUsOKuLONSUMrLAIuLONSUMrMITuLONSUMrNA",
    "tLONSUMsGOUvLONSUMsNAsYArOrPAtLONSUMsHAMrRAIrSAMsHAsSArTHOUsILuLONSUMsTAtHArUNrWAIrYANGmUMIYEKlSYLLABLEREPETIT",
    "IONMARKlVIRAMAmOWELSIGNAAIwUvNAPvUuCHEINAPuIIvNAPuNUNGuONAPuSOUNAPuUNAPvUuVISARGAuYENAPlWORDREPETITIONMARKcLON",
    "dTINGFACEcMOcNDEKIKAKUICOMBININGNUMBERHUNDREDS+iTHOUSANDS+bMILLIONS+bTEENS+dNS+eTHOUSANDS+cHOUSANDSmDIGITEIGHT",
    "rFIVEsOURrNINErONErSEVENsIXrTHREEsWOmSYLLABLEM001KIx2KAx3KUx4WIx5WAx6WUx7MINx8MANx9MUNw10BIx1BAx2BUx3Ix4Ax5Ux6",
    "DIx7DAx8DUx9SIw20SAx1SUx2TIx3TAx4TUx5LIx6LAx7LUx8JIx9JAw30JUx1YIx2YAx3YUx4FIx5FAx6FUx7NINx8NANx9NUNw40HEEx1HAx",
    "2HOOx3NGGAx4KPEEx5WOx6HUANx7MBEEx8KOx9WVAw50PUx1PEx2HENx3HINx4LOOx5TEx6GBAx7NGONx8NYANx9MENw60NYONx1WVIx2MBAx3",
    "JOx4NDOx5KEEx6POx7NDOOx8PIx9TOw70GBOx1GBOOx2MBEx3LEx4KPUx5FEx6KOOx7VOx8FEEx9SOw80YEx1PEEx2NGGUx3HEEIx4LEEx5VEx",
    "6LONGNGGEx7HUNx8FOx9DEEw90NGGIx1TEEx2KPAx3GBEEx4MONx5KEx6HEx7BEx8NYENx9PAv100Ex1FANx2POOx3BOOx4TOOx5LONGMBOOx6",
    "LONGNGGOOx7GBEx8KPEx9YEEw10LONGLEx1GAx2KPOOx3JEx4WOOx5NGGEEx6SEx7NENx8WEx9NDEw20NGGOx1YOx2MBUx3NDIx4GBIx5NDUx6",
    "WEEx7NGGUAx8HOOUx9NDAw30HANx1INx2KPIx3FOOx4NJOOx5INx6SOOx7EIx8BOx9WVEw40HOx1YOOx2LONGMBOx3WEIx4VOOx5MBIx6NGGEx",
    "7Ox8GBUx9NJEEw50BEEx1VUx2NJAx3LOx4MUANx5GIx6NGGOOx7JEEx8KPOx9NGGAAw60JOOx1LONGMBEx2SEEx3EEx4NYINx5OOx6GUEIx7GU",
    "ANx8GUx9NONw70NYUNx1RAx2MBOOx3VEEx4MBOx5LONGJOx6HIx7NGUANx8ENx9KUAw80DOOx1DOx2VIx3LONGNGGOx4NGENx5VAx6HUx7MBUU",
    "x8MBEEx9MUENw90GEEx1NDEEx2NJUx3HONx4WUIx5ANx6SIAx7FUAdORAHWITHNINEBRANCHESdSSYMBOLcRCURYdOITICCURSIVEFRACTIONE",
    "IGHTTWELFTHSyLEVENTWELFTHSxFIVETWELFTHSyOURTWELFTHSxNINETWELFTHSxONEHALF+aTWELFTHxSEVENTWELFTHSyIXTWELFTHSxTEN",
    "TWELFTHSyHREETWELFTHSyWOTWELFTHSpLETTERAwRCHAICSAvBAvDAvEvHHAvIvKAwHAvLAvMAvNAwEvOvPAvQAvRAvSAwEvTAwEwOvWAvYAq",
    "OGOGRAMIMNxRMTpNUMBEREIGHT+aHUNDRED+hTHOUSAND+aTHOUSAND+aYTHOUSANDvFIFTY+aTHOUSANDxVEzHUNDRED+gTHOUSANDzTHOUSA",
    "NDwORTY+aTHOUSANDxURzHUNDRED+gTHOUSANDzTHOUSANDvNINEzHUNDRED+gTHOUSANDzTHOUSAND+aYTHOUSANDvONEyHUNDRED+fTHOUSA",
    "NDyTHOUSANDvSEVEN+aHUNDRED+hTHOUSAND+aTHOUSAND+bY+cTHOUSANDwIXyHUNDRED+fTHOUSANDyTHOUSANDzY+aTHOUSANDvTENyTHOU",
    "SANDwHIRTY+bTHOUSANDxREE+aHUNDRED+hTHOUSAND+aTHOUSANDwWENTY+bTHOUSANDxOyHUNDRED+fTHOUSANDyTHOUSANDiHIEROGLYPHI",
    "CLETTERA+aBA+c2+aDA+aE+aHHA+aI+aKA+bHA+aLA+aMA+aNA+c2+bE+c2+aO+aPA+aQA+aRA+c2+aSA+c2+bE+aTA+c2+bE+c2+bO+aWA+aY",
    "AuSYMBOLVIDJ+e2dPERSONcSSAGEWAITINGcTRICALBREVEiLONGOVERSHORTqTWOSHORTSiPENTASEMEiSHORTOVERLONGiTETRASEMEjRISE",
    "MEjWOSHORTSJOINEDrOVERLONGeObIAOLETTERAHlRCHAICMArNAsGArZZAkBAlRIkDAlDAlLHAnYAlZAmHAmYImZAkFAkGAlHAmHAkHAlHAkK",
    "AkLAlHAmYAlYAkMAlHAkNAmSALIZATIONlGAmHAlHAlNAmHAlYAmHAkPAlLAkQAlGAkREFORMEDTONE1w2w4w5w6w8tSHAlTEkSAlHAlSAlYIk",
    "TAlElLHAnYAlONE2o3o4o5o6o7o8lSAmEmHAmSAlTAkVAlFAkWAkXAkYIDZHAmKAmNNAmPAmTAnSAoHAnTAkZAlHAlSAmHAlZAmSAnYAmYAeSI",
    "GNASPIRATIONiCONSONANTMODIFIERBARiREFORMEDASPIRATIONqVOICINGeTONEABOVEiBELOWiRIGHTiTOPRIGHTeVOWELSIGNAoAoEpEoH",
    "HoIoNpGoUnEoAoIoNpGoRpRnIoApNqGoEoGoIoNGoOpNGoUnNoGnOoERpYoGoOoUnROUNDEDERwRnUoApNqGoEIoIoNGoOGoUnVWnWoOnYoIoU",
    "IcCRDASHSYMBOLeOBEfNUSSYMBOLfPHONEfSCOPEgIGNcDDLEDOTgTHIRDWHITERIGHTPOINTINGINDEXdLINEHORIZONTALELLIPSIScLITAR",
    "YHELMETiMEDALdKYWAYdLSIGNcNIBUSeDISCeMIZEdUSORPLUSSIGNfSIGNjINTRIANGLEjWITHCOMMAABOVEnDOTBELOWnFALLINGDOTSnRIS",
    "INGDOTSfTILDEdYcRRORgBALLbMSPbOBILEPHONElOFFlWITHRIGHTWARDSARROWATLEFTcDELSeRNPENTATHLONdIABBREVIATIONSIGNeDAN",
    "DAfIGITEIGHTjFIVEkOURjNINEjONEjSEVENkIXjTHREEkWOjZEROfOUBLEDANDAeFIERBREVEWITHINVERTEDBREVEiLETTERACUTEACCENTp",
    "LVEOLARCLICKpPOSTROPHEoBEGINHIGHTONEtLOWTONEpILABIALCLICKoCAPITALAwEvBwARREDBvCvDvEvFvGvHwWITHSTROKEvIvJvKvLvM",
    "vNvOwUvPvQvRwEVERSEDE+dNvTvUvVvWpENTREDLEFTHALFRINGvRIGHTHALFRINGpHINESETONEYANGPING+dQU+dRU+dSHANG+aINPING+cQ",
    "U+cRU+cSHANGpIRCUMFLEXACCENTpOLONpROSSACCENTpYRILLICENwHARDSIGNwSMALLA+bBARREDO+cE+cYELORUSSIANUKRAINIANI+bCHE",
    "+bDE+cZZE+bE+cF+cL+cM+cR+cS+dWITHDESCENDER+bGHE+bHA+bI+cE+bJE+bKA+bO+bPALOCHKA+cE+bSCHWA+cHA+cTRAIGHTU+kWITHST",
    "ROKE+bTE+cSE+bU+bVE+bYERU+fWITHBACKYER+cU+bZE+cHExOFTSIGNoDENTALCLICKpOTHORIZONTALBARrSLASHrVERTICALBARqUBLEAP",
    "OSTROPHEuPRIMEqWNARROWHEADsTACKoENDHIGHTONErLOWTONEpXTRAHIGHDOTTEDLEFTSTEMTONEBAR+dTONEBARxLEFTSTEMTONEBARxTON",
    "EBARtLOWDOTTEDLEFTSTEMTONEBAR+cTONEBARwLEFTSTEMTONEBARwTONEBARoGEORGIANNARpLOTTALSTOPzWITHSTROKEpRAVEACCENToHA",
    "LFTRIANGULARCOLONpIGHDOTTEDLEFTSTEMTONEBARyTONEBARsLEFTSTEMTONEBARsTONEBARoLATERALCLICKpEFTARROWHEADsHALFRINGs",
    "TACKpOWACUTEACCENTrCIRCUMFLEXACCENTrDOTTEDLEFTSTEMTONEBARxTONEBARtWNARROWHEADrERRIGHTCORNERANGLErGRAVEACCENTrI",
    "NVERTEDEXCLAMATIONMARKrLEFTARROW+aHEADvSTEMTONEBARrMACRONrRIGHTARROWHEADtNGrTILDEsONEBARrUPARROWHEADrVERTICALL",
    "INEoMACRONpIDDLEDOUBLEACUTEACCENT+aGRAVEACCENTuGRAVEACCENTsOTTEDLEFTSTEMTONEBARxTONEBARrLEFTSTEMTONEBARrTONEBA",
    "RqNUSSIGNoOPENSHELFoPLUSSIGNpRIMEoRAISEDCOLONuDOWNARROWuEXCLAMATIONMARKuINVERTEDEXCLAMATIONMARKuUPARROWpETROFL",
    "EXCLICKWITHRETROFLEXHOOKqVERSEDCOMMAwGLOTTALSTOP+hWITHSTROKEpHOTICHOOKpIGHTARROWHEADtHALFRINGtTACKoSHELFqORTEQ",
    "UALSSIGNpMALLAuEuINuLPHAtBuARREDOuETAuOTTOMHALFOuWITHHOOKtCuAPITALAA+aB+aG+bWITHHOOK+aH+aI+bNVERTEDR+bWITHSTRO",
    "KE+aL+bWITHBELT+aN+aOE+aR+aU+aYuHIuLOSEDOMEGAzREVERSEDOPENEuWITHCURLtDuELTAvZHDIGRAPHuOTLESSJWITHSTROKE+lANDHO",
    "OKuWITHHOOK+cANDTAILyTAILuZDIGRAPH+cWITHCURL+gRETROFLEXHOOKtEuNGuSHuTHuZHtFuENGDIGRAPHtGuAMMAuREEKGAMMAyPHIuWI",
    "THHOOKtHuENGxWITHHOOKuWITHHOOKySTROKEtIOTAuWITHSTROKEtJuWITHCROSSEDTAILtKtLuEZHxWITHRETROFLEXHOOKuIGATUREOEuSD",
    "IGRAPHuWITHBELTyINVERTEDLAZYSyMIDDLETILDEyPALATALHOOKyRETROFLEXHOOK+lANDBELTuZDIGRAPHtMuWITHHOOKtNWITHLEFTHOOK",
    "yRETROFLEXHOOKtOuPENExOuWITHSTROKEtPuHItQtRuAMSHORNuEVERSEDE+bGLOTTALSTOP+bOPENEuWITHFISHHOOKyTAILtSuCHWAvRIPT",
    "GuIDEWAYSUuWITHCURLyHOOKtTuCDIGRAPHWITHCURLuESHDIGRAPHuHETAuOPHALFOuSDIGRAPH+cWITHRETROFLEXHOOKuURNEDA+aE+aLPH",
    "AzHzIzM+aWITHLONGLEGzOPENEzR+aWITHHOOK+eLONGLEG+lANDRETROFLEXHOOKzVzWzY+aWITHBELTuWITHPALATALHOOKyRETROFLEXHOO",
    "KtUuBARuPSILONuWITHLEFTHOOKtVuWITHHOOKyRIGHTHOOKtWtXtYtZuWITHCURLyRETROFLEXHOOKpTRESSANDHIGHTONExLOWTONEpUPERS",
    "CRIPTHALFTRIANGULARCOLONzTRIANGULARCOLONoTRIANGULARCOLONpURNEDCOMMAoUNASPIRATEDpPARROWHEADqTACKpSoVERTICALLINE",
    "pOICINGoYANGDEPARTINGTONEMARKpINDEPARTINGTONEMARKeLETTERAlAlIlUkBAlHAkCAlHAkDAlDAmHAlHAkEkGAlHAkHAkIlIkJAlHAkK",
    "AlHAkLAlLAkMAkNAlGAlNAlYAkOkPAlHAkRAkSAlHAlSAkTAlHAlTAmHAkUlUkVAlOCALICLsLrRsRkYAeSIGNANUSVARAjRDHACANDRAiHUVA",
    "iVIRAMAkSARGAeVOWELSIGNAAoIoUnEnIoInOnUoUnVOCALICLvLuRvRdULOTWOSUMcNEYBAGfMOUTHFACEfWITHWINGSdGOLIANBIRGAoWITH",
    "DOUBLEORNAMENTsORNAMENTjCOLONlMMAjDIGITEIGHToFIVEpOURoNINEoONEoSEVENpIXoTHREEpWOoZEROkOUBLEBIRGAWITHORNAMENTjE",
    "LLIPSISjFOURDOTSkREEVARIATIONSELECTORFOUR+eONE+eTHREE+fWOkULLSTOPjINVERTEDBIRGAwWITHDOUBLEORNAMENTjLETTERAqLIG",
    "ALIAxHxNUSVARAONEwBALUDAwCAwDAyGALGAyMARUxDAwHALFU+aYAwIxNVERTEDUBADAMAwKAwNGAxNAwPAxHAwSSAwTAxHREEBALUDAxTAyH",
    "AwUBADAMAwVISARGAONEwZAxHAqNGpBApCHAsWITHTWODOTSrIpDApEqEpFApGApHAApIpJApKAqHApLAqHApMArNCHUALIGALIBHA+cCA+dYA",
    "+cDDHA+dHA+cGHA+cJHA+cLHA+cNGA+cSSA+cTA+dTA+cZA+dHAvFAvIvKAvRAvZHApNApOqEpPApQApRApSAqHAqIBEANGtCHAtDAtEtFAtGA",
    "vAtHAvAtIuYtJAtKAtPAtRAAtSHAtTAuSAtUuEtZAuHApTAqODOALIGALITA+aZHAuNGtBAtCHAtDAuZAtEtGAvAtHAAtItJAuIAtKAtLONGVO",
    "WELSIGNtMAtNIAtOuEtPAtQAtTAuSAtUuEtWAtYAqSApUqEpWApYApZAqHIqRAjMANCHUCOMMApFULLSTOPjNIRUGUjROTATEDBIRGAvWITHDO",
    "UBLEORNAMENTzORNAMENTjSIBESYLLABLEBOUNDARYMARKERkWIRLBIRGAtWITHDOUBLEORNAMENTxORNAMENTjTODOSOFTHYPHENkRIPLEBIR",
    "GAWITHORNAMENTkURNEDSWIRLBIRGAWITHDOUBLEORNAMENTjVOWELSEPARATORdKEYgFACEdOGRAMFOREARTHlYANGmINeRAILeSTABLESYMB",
    "OLcODBUBBLEdNCAKEeVIEWINGCEREMONYdSEcSQUEfITOcTHERCHRISTMASdORBOATfIZEDWHEELCHAIRfSCOOTERfWAYcUNTAINiBICYCLIST",
    "iCABLEWAYiRAILWAYfFUJIdSEfFACEfTRAPdTHcVIECAMERAcYAIbRODANDAeIGITEIGHTiFIVEjOURiNINEiONEiSEVENjIXiTHREEjWOiZER",
    "OeOUBLEDANDAdLETTERAjBAjCHUjDAlIjEkAjHAIlOjKEAAEkHAIkOjLAlNjMAEMkIMjNGIkINjOkLkOjPAkHIjRIkOjSHIjTAkEKkHEAjWAjY",
    "ObUCHGREATERTHANeLESSTHANcLTANILETTERAnBAoHAnCAoHAnDAoDApDApHAoHAnEnGAoHAnHAnInJAoJAnKAoHAnLAnMAnNAoNAoYAnPAoH",
    "AnRAoHAoRAnSAnTAoHAoTApHAnUnVAnYAhSECTIONMARKeIMAPfPLEMUSICALNOTEShICATIONSIGNsINDOUBLECIRCLEuLEFTHALFCIRCLEuR",
    "IGHTHALFCIRCLEuTRIANGLEsWITHDOTABOVEwUNDERBARoXfSETiMULTIPLICATIONiUNIONcSHROOMdICALKEYBOARDpWITHJACKShNOTEhSC",
    "OREiYMBOLARPEGGIATODOWNxUPnBEGINBEAMsPHRASEsSLURsTIEoRACErKETpEATHMARKqVErIStRESTnCAESURAoCLEFoIRCLEXNOTEHEADo",
    "LIMACUSqVISpUSTERNOTEHEADBLACK+cWHITEoODApMBININGACCENT+cSTACCATOxUGMENTATIONDOTwBENDwDOITyUBLETONGUEyWNBOWwFL",
    "AG1+a2+a3+a4+a5yIPwHARMONICwLOUREwMARCATO+dSTACCATOwRIPwSMEARxNAPPIZZICATOxPRECHGESANGSTEMxTACCATISSIMO+dOyEMw",
    "TENUTOxREMOLO1+d2+d3yIPLETONGUEwUPBOWqMONTIMEoRESCENDOpOIXoUTTIMEnDACAPOpLSEGNOpMPrALLpSHEDBARLINEoECRESCENDOp",
    "GREESLASHoOUBLEBARLINEtFLATtSHARPoRUMCLEF1v2nEIGHTHNOTEtRESToNDBEAMqOFSTIMMEqPHRASEqSLURqTIEnFCLEFsOTTAVAALTAy",
    "BASSAoERMATAuBELOWoINALBARLINEqGEREDTREMOLO1+c2+c3pVELINESTAFFoLATDOWNrUPoORTEpURLINESTAFFrSTRINGFRETBOARDoUSA",
    "BLACKrWHITEnGCLEFsOTTAVAALTAyBASSAoLISSANDODOWNwUPoRACENOTENOSLASHwSLASHpEGORIANCCLEFwFCLEFnHALFNOTErPEDALMARK",
    "rRESTpUPTSTIMMEnINVERTEDTURNnKIEVANCCLEFtEIGHTHNOTESTEMDOWN+hUPuNDOFPIECEtFINALNOTEuLATSIGNtHALFNOTEtQUARTERNO",
    "TESTEMDOWN+iUPtRECITATIVEMARKtWHOLENOTEoORONnLEFTREPEATSIGNoONGAsIMPERFECTARESTsPERFECTARESTnMAXIMAoEZZOoINIMA",
    "tBLACKtRESToOONNOTEHEADBLACKzWHITEoULTIPLEMEASURERESTsRESTnNATURALDOWNuUPoEBENSTIMMEoOTEHEADBLACKoULLNOTEHEADn",
    "ONEHUNDREDTWENTYEIGHTHNOTE+jRESTqLINESTAFFoRNAMENTSTROKE1+c0+c1+b2+b3+b4+b5+b6+b7+b8+b9oTTAVAALTAtBASSAnPARENT",
    "HESISNOTEHEADoEDALMARKsUPMARKpSSUBPUNCTISoIANOoLUSNOTEHEADoODATUSpRRECTUSwFLEXUSnQUARTERNOTEuRESTuTONEFLATySHA",
    "RPpINDICESIMAALTAzBASSAnREPEATDOTStEDFIGURE1+b2+b3pVERSEFINALBARLINEoIGHTREPEATSIGNpNFORZANDOnSCANDICUSwFLEXUS",
    "oEGNOpMIBREVISBLACKxRESTxWHITErMINIMABLACKxRESTxWHITEoHARPDOWNsUPpORTBARLINEoINGLEBARLINEpXLINESTAFFqSTRINGFRE",
    "TBOARDqTEENTHNOTEwRESTrYFOURTHNOTEyRESToORIoQUAREBtNOTEHEADBLACK+bWHITEoUBITOnTEMPUSIMPERFECTUMCUMPROLATIONEIM",
    "PERFECTA++bDIMINUTION1++l2++l3+rPERFECTAtPERFECTUMCUMPROLATIONEIMPERFECTA+pPERFECTA+xDIMINUTION1oHIRTYSECONDNO",
    "TEzRESTpREELINESTAFFoORCULUSvRESUPINUSoRpIANGLENOTEHEADDOWNBLACK+hWHITE+dLEFTBLACK+hWHITE+dRIGHTBLACK+iWHITE+d",
    "UPBLACK+fRIGHTBLACK+kWHITE+fWHITEvROUNDNOTEHEADDOWNBLACK+mWHITEoURNrSLASHrUPoWOLINESTAFFnVIRGAoOIDNOTEHEADnWHO",
    "LENOTEsRESToITHFINGERNAILSnXNOTEHEADnZfFLATSIGNfNATURALSIGNfSHARPSIGNbVSbWbYANMARCONSONANTSIGNMEDIALHA+aRA+aWA",
    "+aYAvONMEDIALLA+dMA+dNAuSHANMEDIALWAhDIGITEIGHTmFIVEnOURmNINEmONEmSEVENnIXmTHREEnWOmZEROhLETTERAoITONRAoUnBAoH",
    "AnCAoHAnDAoDApHAoHAnEoASTERNPWOKARENGHWA+cNNA+cYWAnGAoHAoREATSAnHAnIoInJAoHAnKAoHAqMTICAuHAtDDAvHAuHAtFAtGAtHA",
    "uHAtJAuHAtLLAtNAuYAtRAtSAtTTAvHAtXAtZAnLAoLAnMAoONBBAsEqEqJHAqNGAnNAoGAoNApYAoYAnOnPAoHAnRAoUMAIPALAUNGFAnSAoG",
    "AWKARENSHAoHAqNArBAsHArCAsHArDArFArGAsHArHArJHArKAsHArNAsNAsYArPHArTHArZApWEPALAUNGCHAySHAoSAnTApILAINGBAwHAvD",
    "AwDAxHAwHAvFAvGAwHAvJAwHAvLLAvNNAwYAoHAoTApHAnUoUnVOCALICLvLuRvRnWAoESTERNPWOKARENPWA+cTHAnYAiOGOGRAMKHAMTIHMv",
    "OAYvQNhMODIFIERLETTERKHAMTIREDUPLICATIONvSHANREDUPLICATIONhSHANDIGITEIGHTqFIVErOURqNINEqONEqSEVENrIXqTHREErWOq",
    "ZEROiIGNANUSVARAmSATlDOTBELOWlKHAMTITONE1v3lLITTLESECTIONlPAOKARENTONElRUMAIPALAUNGTONE5lSECTIONmHANCOUNCILEMP",
    "HATICTONEwTONE2+a3pSAWpTONE2t3t5t6lTAILAINGTONE2x5lVIRAMAnSARGAlWESTERNPWOKARENTONE1+e2+e3+e4+e5iYMBOLAFOREMEN",
    "TIONEDoITONEXCLAMATIONsONEsTWOnCOMPLETEDnGENITIVEnLOCATIVEnSHANEXCLAMATIONrONEhTAILAINGDIGITEIGHTuFIVEvOURuNIN",
    "EuONEuSEVENvIXuTHREEvWOuZEROiONEMARKSGAWKARENHATHIyKEPHOhVOWELSIGNAArIsTONAwIqErABOVEqGEBAKARENIqIrIqKAYAHEEvO",
    "EvUqMONIItOqSGAWKARENEUrHANAAuEvABOVEuFINALYqTALLAAqUrUqVOCALICLyLxRyRqWESTERNPWOKARENEU+fUE"]

/-- The names that start with N. -/
def namesN : List String :=
  ["aNABATAEANCRUCIFORMNUMBERFOURjLETTERALEPHqYINpBETHpDALETHpFINALALEPHuBETHuHEuKAPHuLAMEDHuMEMuNUNuSHINuYODHpGIM",
    "ELpHErTHpKAPHpLAMEDHpMEMpNUNpPEpQOPHpRESHpSADHErMEKHqHINpTAWqETHpWAWpYODHpZAYINjNUMBERFIVEqOURpONEsHUNDREDpTEN",
    "qHREEqWENTYrOdLAcGMUNDARIDIGITEIGHTpFIVEqOURpNINEpONEpSEVENqIXpTHREEqWOpZEROkLETTERArBrHrJrNYqErGrLLrMrNsNrTTq",
    "IrDDrHrSrTqOrLrNGrPrYqUrCrDrKrRkSIGNIKIRoMUHORoOJODoSUTUHoTOYORcILPOLISHdRASIGNcKcMEBADGEcNDeINAGARIHEADSTROKE",
    "lLETTERAsAsIsUrBAsHArCAsHArDAsDAtHAsHArErGAsHArHArIsIrJAsHArKAsHArLAsLArMArNAsGAsNAsYArOrPAsHArRAsRArSAsHAsSAr",
    "TAsHAsTAtHArUsUrVAsOCALICRzRrYAlSIGNANUSVARAqVAGRAHApSIDDHAMpVIRAMArSARGAlVOWELSIGNAAvIvUuEuIvIuOuPRISHTHAMATR",
    "AEuUvUuVOCALICR+cRcRROWNOBREAKSPACEdYCIRCLEDDOTOPERATORlPLUSOPERATORlTIMESOPERATORfOPRODUCTeINTERSECTIONeLOGIC",
    "ALANDlORePRODUCTeSQUAREINTERSECTIONOPERATORkUNIONOPERATORfUMMATIONeTIMESOPERATOReUNIONjOPERATORWITHDOTvPLUSeWH",
    "ITEVERTICALBARcTIONALDIGITSHAPESiPARKcUSEATEDFACEcZARAMULETbBHcSPbECKTIEcGATEDDOUBLEVERTICALBARDOUBLERIGHTTURN",
    "STILEfIVEACKNOWLEDGEiCIRCLEDDIGITZEROpLATINCAPITALLETTERA+hB+hC+hD+hE+hF+hG+hH+hI+hJ+hK+hL+hM+hN+hO+hP+hQ+hR+h",
    "S+hT+hU+hV+hW+hX+hY+hZpNUMBEREIGHTEENwLEVENvFIFTEENwOURTEENvNINETEENvSEVENTEENwIXTEENvTHIRTEENwWELVEyNTYpSQUAR",
    "EpTRIANGLEiDIAGONALCROSSqDIAMONDqMIDDLERIGHTTOLOWERCENTREiSQUAREDABpCROSSMARKpICpLATINCAPITALLETTERA+hB+hC+hD+",
    "hE+hF+hG+hH+hI+hJ+hK+hL+hM+hN+hO+hP+hQ+hR+hS+hT+hU+hV+hW+hX+hY+hZpPApQUESTIONMARKpSApWCcITHERAPPROXIMATELYNORA",
    "CTUALLYEQUALTOiSUBSETOFNOREQUALTOkPERSETOFNOREQUALTOhGREATERTHANNOREQUALTOyIVALENTTOvLESSTHANhLESSTHANNOREQUAL",
    "TOvIVALENTTOsGREATERTHANcLcPTUNEhFORMTWOcRDFACEcSSUSdTINGDOLLSeWITHEGGScUTEReRALCHESSBISHOPsROTATEDNINETYDEGRE",
    "ESzTWOHUNDREDSEVENTYDEGREESmEQUIHOPPERwROTATEDNINETYDEGREESmKINGqROTATEDNINETYDEGREESxTWOHUNDREDSEVENTYDEGREES",
    "nNIGHTsROTATEDFORTYFIVEDEGREESzNINETYDEGREESzONEHUNDREDTHIRTYFIVEDEGREESzTHREEHUNDREDFIFTEENDEGREES+aWOHUNDRED",
    "SEVENTYDEGREES+jTWENTYFIVEDEGREESmPAWNqROTATEDNINETYDEGREESxTWOHUNDREDSEVENTYDEGREESmQUEENrROTATEDNINETYDEGREE",
    "SyTWOHUNDREDSEVENTYDEGREESmROOKqROTATEDNINETYDEGREESxTWOHUNDREDSEVENTYDEGREESmTURNEDBISHOPsKINGtNIGHTsPAWNsQUE",
    "ENsROOKhFACEcWAABBREVIATIONSIGNeCOMMAeDANDAfIGITEIGHTjFIVEkOURjNINEjONEjSEVENkIXjTHREEkWOjZEROfOUBLECOMMAkDAND",
    "AeGAPFILLEReINSERTIONSIGNeLETTERAlAlIlUkBAlHAkCAlHAkDAlDAmHAlHAkEkGAlHAkHAkIlIkJAlHAkKAlHAkLAlHAkMAlHAkNAlGAmH",
    "AlHAlNAlYAmHAkOkPAlHAkRAlHAkSAlHAlSAkTAlHAlTAmHAkUlUkVEDICANUSVARAlOCALICLsLrRsRkWAkYAeOMePLACEHOLDERMARKeSAND",
    "HIMARKfIDDHIgGNANUSVARAjVAGRAHAiCANDRABINDUiFINALANUSVARAiJIHVAMULIYAiNUKTAiUPADHMANIYAiVIRAMAkSARGAeVOWELSIGN",
    "AAoIoUnEnIoInOnUoUnVOCALICLvLuRvRdLINEhLEFThRIGHTdMOONSYMBOLhWITHFACEdSHEQELSIGNePAPERdTAILUEDIGITEIGHToFIVEpO",
    "URoNINEoONEoSEVENpIXoTHREEpWOoZEROjLETTERFINALBuDuKuMuNvGuVpHIGHBAtDAtFAtHAtKAuVAtLAtMAtNAuGAtPAuHAtQAtSAuUAtT",
    "AuHAuSAtVAtXAuVAtYApLOWBAsDAsFAsHAsKAtVAsLAsMAsNAtGAsPAtHAsQAsSAtUAsTAtHAtSAsVAsXAtVAsYAjSIGNLAEqVjTHAMDIGITON",
    "EkONEMARK1r2jVOWELSIGNAAuYtEtYsEsIItYsOtAuYtYsUtEuYtUtYsVOWELSHORTENERcXTLINEePAGEbIGHTWITHSTARScNEPOINTEDWHIT",
    "ESTARdJAbKOCOMBININGDOUBLEDOTABOVEmLONGDESCENDINGTONEqHIGHTONEqLOWTONEqRISINGTONEmNASALIZATIONMARKmSHORTHIGHTO",
    "NErLOWTONErRISINGTONEgMAdDANTAYALANeIGITEIGHTiFIVEjOURiNINEiONEiSEVENjIXiTHREEjWOiZEROeOROMESIGNdEXCLAMATIONMA",
    "RKdHIGHTONEAPOSTROPHEdLAJANYALANeETTERAjBAjCHAjDAlGBASINNAjEkEjFAjGBAjHAjIjJAkONACHAnJAnRAjKAjLAjMAjNkAlWOLOSO",
    "kYAmWOLOSOjOkOjPAjRAkRAjSAjTAjUjWAjYAeOWTONEAPOSTROPHEdSYMBOLGBAKURUNENjOODENNENdTAMANSIGNbLbNBSPbOBICYCLESdRE",
    "AKHEREhSPACEcENTRYhSIGNcMINALDIGITSHAPESeSMASIGNdOBILEPHONEScNBREAKINGHYPHENdFORKINGdPOTABLEWATERSYMBOLcONEUND",
    "EREIGHTEENSYMBOLcPEDESTRIANSdIRACYcRdDICMARKSIGNdMALSUBGROUPOFqOREQUALTOdTHEASTANDSOUTHWESTARROWkRROWoANDSOUTH",
    "EASTARROWoCROSSINGNORTHWESTARROWwSOUTHEASTARROWoWITHHOOKjBLACKARROWjDOUBLEARROWjPOINTINGAIRPLANErBUDrLEAFrVINE",
    "LEAFjSANSSERIFARROWjTRIANGLEHEADEDARROW+cTOBARjWHITEARROWfINDICFRACTIONONEEIGHTHvHALFvQUARTERvSIXTEENTHsTHREEQ",
    "UARTERSxSIXTEENTHSkPLACEHOLDERMARKkQUANTITYMARKnRTERMARKkRUPEEMARKfWESTANDSOUTHEASTARROWkRROWoANDNORTHEASTARRO",
    "WoCROSSINGNORTHEASTARROWoTOCORNERqLONGBARoWITHHOOKjBLACKARROWjDOUBLEARROWjPOINTINGBUDrLEAFrVINELEAFjSANSSERIFA",
    "RROWjTRIANGLEHEADEDARROW+cTOBARjWHITEARROWcSEdMOKINGSYMBOLcTALMOSTEQUALTOeNELEMENTOFeSUBSETOFgPERSETOFfYMPTOTI",
    "CALLYEQUALTOdCHECKMARKgDLEFTSEMICIRCLEWITHTHREEDOTSiOWERRIGHTSHADOWEDWHITERIGHTWARDSARROWhRIGHTSEMICIRCLEWITHT",
    "HREEDOTShUPPERRIGHTSHADOWEDWHITERIGHTWARDSARROWdEeBOOKiWITHDECORATIVECOVERePADgGEeQUALTOgIVALENTTOdGREATERTHAN",
    "dIDENTICALTOdLESSTHANdNORMALSUBGROUPOFtOREQUALTOdPARALLELTOdSIGNeQUAREIMAGEOFOREQUALTOjORIGINALOFOREQUALTOdTIL",
    "DEeRUEbULdLcMBEREIGHTEENFULLSTOPhLEVENFULLSTOPgFIFTEENFULLSTOPhOURTEENFULLSTOPgNINETEENFULLSTOPgSEVENTEENFULLS",
    "TOPhIGNiXTEENFULLSTOPgTENFULLSTOPhHIRTEENFULLSTOPhWELVEFULLSTOPjNTYFULLSTOPdEROSIGNcSHUCHARACTER1B170s1s2s3s4s",
    "5s6s7s8s9sAsBsCsDsEsFr80s1s2s3s4s5s6s7s8s9sAsBsCsDsEsFr90s1s2s3s4s5s6s7s8s9sAsBsCsDsEsFrA0s1s2s3s4s5s6s7s8s9sA",
    "sBsCsDsEsFrB0s1s2s3s4s5s6s7s8s9sAsBsCsDsEsFrC0s1s2s3s4s5s6s7s8s9sAsBsCsDsEsFrD0s1s2s3s4s5s6s7s8s9sAsBsCsDsEsFr",
    "E0s1s2s3s4s5s6s7s8s9sAsBsCsDsEsFrF0s1s2s3s4s5s6s7s8s9sAsBsCsDsEsFq200s1s2s3s4s5s6s7s8s9sAsBsCsDsEsFr10s1s2s3s4",
    "s5s6s7s8s9sAsBsCsDsEsFr20s1s2s3s4s5s6s7s8s9sAsBsCsDsEsFr30s1s2s3s4s5s6s7s8s9sAsBsCsDsEsFr40s1s2s3s4s5s6s7s8s9s",
    "AsBsCsDsEsFr50s1s2s3s4s5s6s7s8s9sAsBsCsDsEsFr60s1s2s3s4s5s6s7s8s9sAsBsCsDsEsFr70s1s2s3s4s5s6s7s8s9sAsBsCsDsEsF",
    "r80s1s2s3s4s5s6s7s8s9sAsBsCsDsEsFr90s1s2s3s4s5s6s7s8s9sAsBsCsDsEsFrA0s1s2s3s4s5s6s7s8s9sAsBsCsDsEsFrB0s1s2s3s4",
    "s5s6s7s8s9sAsBsCsDsEsFrC0s1s2s3s4s5s6s7s8s9sAsBsCsDsEsFrD0s1s2s3s4s5s6s7s8s9sAsBsCsDsEsFrE0s1s2s3s4s5s6s7s8s9s",
    "AsBsCsDsEsFrF0s1s2s3s4s5s6s7s8s9sAsBfITERATIONMARKcTANDBOLTbYIAKENGPUACHUEHMONGCIRCLEDCAuDIGITEIGHTzFIVE+aOURz",
    "NINEzONEzSEVEN+aIXzTHREE+aWOzZEROuLETTERA+bA+aCA+aDA+bLA+aE+bE+aFA+aGA+aHA+cH+aI+aKA+aLA+aMA+bLA+aNA+bCA+bKA+b",
    "PA+cLA+bQA+bRA+bTA+cSA+cXA+bYA+aO+bO+aPA+bLA+aQA+aRA+bRA+aSA+aTA+bSA+bXA+aU+aVA+aW+aXA+bYA+aYA+aZAvOGOGRAMNYAJ",
    "uSIGNFORANIMAL+bINVERTEBRATE+bLOCATION+bPERSON+bTHINGyXWXWvYLLABLELENGTHENERuTONEByDyGyJyMySyV"]

end CharacterName

end Text

end PythonAudit
